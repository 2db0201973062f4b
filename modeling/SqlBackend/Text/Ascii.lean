/-!
# ASCII classes

Digits, letters and hexadecimal digits in the narrow sense, and the small form of a letter. Numerals,
schemes and hosts in brackets are made of these and of nothing else.
-/

namespace SqlBackend.Text

/-- One of the ten digits `0` to `9`. -/
def isAsciiDigit (c : Char) : Bool := 0x30 ≤ c.toNat && c.toNat ≤ 0x39

def isAsciiUpper (c : Char) : Bool := 0x41 ≤ c.toNat && c.toNat ≤ 0x5A

def isAsciiLetter (c : Char) : Bool :=
  isAsciiUpper c || (0x61 ≤ c.toNat && c.toNat ≤ 0x7A)

def isHexDigit (c : Char) : Bool :=
  isAsciiDigit c || (0x41 ≤ c.toNat && c.toNat ≤ 0x46) || (0x61 ≤ c.toNat && c.toNat ≤ 0x66)

/-- An ASCII capital as its small letter, any other character as itself. -/
def asciiLower (c : Char) : Char :=
  if isAsciiUpper c then Char.ofNat (c.toNat + 0x20) else c

end SqlBackend.Text
