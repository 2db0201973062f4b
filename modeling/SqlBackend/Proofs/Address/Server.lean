import Mathlib.Data.List.TakeWhile
import SqlBackend.Address.Basic
import SqlBackend.Proofs.Text.Ascii

/-!
# Addresses of servers

An address that is put together from a scheme, a plain host, a port and a database comes apart into
the first three again, because none of them holds a character that ends a part. Of what comes last,
`keptPath` is left: tabs and line ends are dropped from a text, and a question mark or a number sign
ends the path. Each step of `Address.ofText?` is passed by one lemma, in the order of the steps.
-/

namespace SqlBackend.Address

open SqlBackend.Text SqlBackend.Numeric

/-- A character that a database in an address is read with, and that does not end the path. -/
def isPathChar (c : Char) : Bool :=
  !(c == '?' || c == '#' || c == '\t' || c == '\n' || c == '\r')

/-- A character that is not dropped from a text. -/
def isKept (c : Char) : Bool := !(c == '\t' || c == '\n' || c == '\r')

/-- A character that does not end the path. -/
def staysInPath (c : Char) : Bool := !(c == '?' || c == '#')

/-- What is left of a path when it is read. -/
def keptPath (path : List Char) : List Char := (path.filter isKept).takeWhile staysInPath

/-- A character of a plain host with a port. -/
def isServerChar (c : Char) : Bool := isHostChar c || c == ':'

theorem isPathChar_iff {c : Char} :
    isPathChar c = true ↔ isKept c = true ∧ staysInPath c = true := by
  simp only [isPathChar, isKept, staysInPath, Bool.not_eq_true', Bool.or_eq_false_iff]
  constructor
  · rintro ⟨⟨⟨⟨hquery, hfragment⟩, htab⟩, hline⟩, hreturn⟩
    exact ⟨⟨⟨htab, hline⟩, hreturn⟩, hquery, hfragment⟩
  · rintro ⟨⟨⟨htab, hline⟩, hreturn⟩, hquery, hfragment⟩
    exact ⟨⟨⟨⟨hquery, hfragment⟩, htab⟩, hline⟩, hreturn⟩

/-- A path is read as it is exactly if it has none of the characters that are dropped or end it. -/
theorem keptPath_eq_self_iff {path : List Char} :
    keptPath path = path ↔ ∀ c ∈ path, isPathChar c = true := by
  simp only [isPathChar_iff]
  constructor
  · intro h
    have hfilter : path.filter isKept = path := by
      apply List.filter_sublist.eq_of_length_le
      have hlength := (List.takeWhile_sublist staysInPath (l := path.filter isKept)).length_le
      rwa [← keptPath, h] at hlength
    rw [keptPath, hfilter] at h
    exact fun c hc => ⟨List.filter_eq_self.mp hfilter c hc, List.takeWhile_eq_self_iff.mp h c hc⟩
  · intro h
    rw [keptPath, List.filter_eq_self.mpr fun c hc => (h c hc).1,
      List.takeWhile_eq_self_iff.mpr fun c hc => (h c hc).2]

theorem takeWhile_append_cons {p : Char → Bool} {front rest : List Char} {stop : Char}
    (hfront : ∀ c ∈ front, p c = true) (hstop : p stop = false) :
    (front ++ stop :: rest).takeWhile p = front := by
  rw [List.takeWhile_append_of_pos hfront, List.takeWhile_cons_of_neg (by simp [hstop]),
    List.append_nil]

theorem dropWhile_append_cons {p : Char → Bool} {front rest : List Char} {stop : Char}
    (hfront : ∀ c ∈ front, p c = true) (hstop : p stop = false) :
    (front ++ stop :: rest).dropWhile p = stop :: rest := by
  rw [List.dropWhile_append_of_pos hfront, List.dropWhile_cons_of_neg (by simp [hstop])]

theorem ne_of_isServerChar {c separator : Char} (h : isServerChar c = true)
    (hseparator : isServerChar separator = false) : c ≠ separator := by
  rintro rfl
  rw [h] at hseparator
  cases hseparator

theorem toNat_of_isServerChar {c : Char} (h : isServerChar c = true) :
    0x20 < c.toNat ∧ c.toNat < 0x80 := by
  rw [isServerChar, Bool.or_eq_true, beq_iff_eq] at h
  rcases h with hhost | rfl
  · have hrange := toNat_of_isHostChar hhost
    omega
  · decide

theorem isServerChar_of_isHostChar {c : Char} (h : isHostChar c = true) : isServerChar c = true := by
  rw [isServerChar, h, Bool.true_or]

theorem isKept_of_visible {c : Char} (h : 0x20 < c.toNat) : isKept c = true := by
  have hne {dropped : Char} (hdropped : dropped.toNat ≤ 0x20) : (c == dropped) = false := by
    rw [beq_eq_false_iff_ne]
    rintro rfl
    omega
  rw [isKept, hne (by decide), hne (by decide), hne (by decide)]
  rfl

/-- A text that starts with visible characters loses nothing of these. -/
theorem clean_append {front rest : List Char} (hne : front ≠ [])
    (h : ∀ c ∈ front, 0x20 < c.toNat) : clean (front ++ rest) = front ++ rest.filter isKept := by
  obtain ⟨c, front, rfl⟩ := List.exists_cons_of_ne_nil hne
  have hhead : 0x20 < c.toNat := h c List.mem_cons_self
  show (((c :: front) ++ rest).dropWhile (·.toNat ≤ 0x20)).filter isKept = _
  rw [List.cons_append, List.dropWhile_cons_of_neg (by simpa using hhead), ← List.cons_append,
    List.filter_append, List.filter_eq_self.mpr fun d hd => isKept_of_visible (h d hd)]

theorem splitScheme_append {scheme rest : List Char} (hne : scheme ≠ [])
    (h : ∀ c ∈ scheme, isAsciiLower c = true) :
    splitScheme (scheme ++ ':' :: rest) = (scheme, rest) := by
  have hcolon : ∀ c ∈ scheme, (c != ':') = true := by
    intro c hc
    have hrange := toNat_of_isAsciiLower (h c hc)
    rw [bne_iff_ne]
    rintro rfl
    exact absurd hrange (by decide)
  have hletter : ∀ c ∈ scheme, isAsciiLetter c = true := by
    intro c hc
    have hrange := toNat_of_isAsciiLower (h c hc)
    simp [isAsciiLetter, hrange]
  have hhead : scheme.head?.any isAsciiLetter = true := by
    cases scheme with
    | nil => exact absurd rfl hne
    | cons c _ => exact hletter c List.mem_cons_self
  have hall : scheme.all isSchemeChar = true := by
    rw [List.all_eq_true]
    intro c hc
    simp [isSchemeChar, hletter c hc]
  have hlower : scheme.map asciiLower = scheme := by
    have hsmall : scheme.map asciiLower = scheme.map id := by
      apply List.map_congr_left
      intro c hc
      have hrange := toNat_of_isAsciiLower (h c hc)
      have hupper : isAsciiUpper c = false := by
        simp only [isAsciiUpper, Bool.and_eq_false_iff, decide_eq_false_iff_not]
        omega
      rw [asciiLower, hupper]
      rfl
    rw [hsmall, List.map_id]
  have htake : (scheme ++ ':' :: rest).takeWhile (· != ':') = scheme :=
    takeWhile_append_cons hcolon (by decide)
  have hdrop : (scheme ++ ':' :: rest).dropWhile (· != ':') = ':' :: rest :=
    dropWhile_append_cons hcolon (by decide)
  simp only [splitScheme, htake, hdrop, hhead, hall, hlower, Bool.and_self, if_true]

theorem splitAuthority_append {authority rest : List Char}
    (h : ∀ c ∈ authority, isServerChar c = true) :
    splitAuthority ('/' :: '/' :: (authority ++ '/' :: rest)) = (authority, '/' :: rest) := by
  have hends : ∀ c ∈ authority, (!endsAuthority c) = true := by
    intro c hc
    have hslash := ne_of_isServerChar (h c hc) (by decide : isServerChar '/' = false)
    have hquery := ne_of_isServerChar (h c hc) (by decide : isServerChar '?' = false)
    have hfragment := ne_of_isServerChar (h c hc) (by decide : isServerChar '#' = false)
    simp [endsAuthority, hslash, hquery, hfragment]
  rw [splitAuthority, takeWhile_append_cons hends (by decide),
    dropWhile_append_cons hends (by decide)]

theorem first_of_mem_deceptive : ∀ range ∈ deceptive, 0x80 ≤ range.1 := by
  decide

theorem checkAuthority_of_isServerChar {authority : List Char}
    (h : ∀ c ∈ authority, isServerChar c = true) : checkAuthority authority = .ok () := by
  have hbrackets {bracket : Char} (hbracket : isServerChar bracket = false) :
      authority.contains bracket = false := by
    rw [← Bool.not_eq_true, List.contains_iff_mem]
    exact fun hmem => ne_of_isServerChar (h bracket hmem) hbracket rfl
  have hdeceptive : authority.any deceptive.has = false := by
    rw [List.any_eq_false]
    intro c hc hhas
    obtain ⟨range, hmem, hin⟩ := List.any_eq_true.mp hhas
    have hfirst := first_of_mem_deceptive range hmem
    have hrange := toNat_of_isServerChar (h c hc)
    simp only [Bool.and_eq_true, decide_eq_true_eq] at hin
    omega
  rw [checkAuthority, hbrackets (by decide), hbrackets (by decide), hdeceptive]
  rfl

/-- An address comes apart into its scheme, its authority and what is left of its path. -/
theorem ofText?_eq_ok {s : String} {scheme authority path : List Char} (hne : scheme ≠ [])
    (hscheme : ∀ c ∈ scheme, isAsciiLower c = true)
    (hparameters : parameterSchemes.contains (String.ofList scheme) = false)
    (hauthority : ∀ c ∈ authority, isServerChar c = true)
    (hs : s.toList = scheme ++ ':' :: '/' :: '/' :: (authority ++ '/' :: path)) :
    ofText? s = .ok ⟨scheme, authority, '/' :: keptPath path⟩ := by
  have hvisible : ∀ c ∈ scheme ++ ':' :: '/' :: '/' :: (authority ++ ['/']), 0x20 < c.toNat := by
    intro c hc
    simp only [List.mem_append, List.mem_cons, List.not_mem_nil, or_false] at hc
    rcases hc with hmem | rfl | rfl | rfl | hmem | rfl
    · have hrange := toNat_of_isAsciiLower (hscheme c hmem)
      omega
    · decide
    · decide
    · decide
    · exact (toNat_of_isServerChar (hauthority c hmem)).1
    · decide
  have hclean := @clean_append _ path (by simp) hvisible
  simp only [List.append_assoc, List.cons_append, List.nil_append] at hclean
  have htake : ('/' :: path.filter isKept).takeWhile (fun c => !(c == '?' || c == '#')) =
      '/' :: keptPath path :=
    List.takeWhile_cons_of_pos (by decide)
  have hcheck := checkAuthority_of_isServerChar hauthority
  rw [ofText?, hs, hclean, splitScheme_append hne hscheme]
  simp only [splitAuthority_append hauthority, hcheck, htake, hparameters]
  rfl

/-- The host and the port stand on the two sides of the colon. -/
theorem hostAndPort_server {host port : List Char} (hhost : ∀ c ∈ host, isHostChar c = true)
    (hport : ∀ c ∈ port, isHostChar c = true) : hostAndPort (host ++ ':' :: port) = (host, port) := by
  have hserver : ∀ c ∈ host ++ ':' :: port, isServerChar c = true := by
    intro c hc
    rw [isServerChar, Bool.or_eq_true, beq_iff_eq]
    rcases List.mem_append.mp hc with hmem | hmem
    · exact .inl (hhost c hmem)
    · rcases List.mem_cons.mp hmem with rfl | hmem
      · exact .inr rfl
      · exact .inl (hport c hmem)
  have hnamed : hostPart (host ++ ':' :: port) = host ++ ':' :: port := by
    have hat : ∀ c ∈ (host ++ ':' :: port).reverse, (c != '@') = true := fun c hc =>
      bne_iff_ne.mpr (ne_of_isServerChar (hserver c (List.mem_reverse.mp hc)) (by decide))
    rw [hostPart, afterLast, List.takeWhile_eq_self_iff.mpr hat, List.reverse_reverse]
  have hbracket : (host ++ ':' :: port).dropWhile (· != '[') = [] := by
    rw [List.dropWhile_eq_nil_iff]
    intro c hc
    exact bne_iff_ne.mpr (ne_of_isServerChar (hserver c hc) (by decide))
  have hcolon : ∀ c ∈ host, (c != ':') = true := fun c hc =>
    bne_iff_ne.mpr (ne_of_isHostChar (hhost c hc) (by decide))
  have htake : (host ++ ':' :: port).takeWhile (· != ':') = host :=
    takeWhile_append_cons hcolon (by decide)
  have hdrop : (host ++ ':' :: port).dropWhile (· != ':') = ':' :: port :=
    dropWhile_append_cons hcolon (by decide)
  simp only [hostAndPort, hnamed, hbracket, htake, hdrop]
  rfl

section

variable {scheme host path : List Char} (port : Nat) (hhost : ∀ c ∈ host, isHostChar c = true)

include hhost

theorem hostAndPort_repr : hostAndPort (host ++ ':' :: port.repr.toList) = (host, port.repr.toList) :=
  hostAndPort_server hhost fun _ hc => isHostChar_of_isAsciiDigit (isAsciiDigit_of_mem_repr hc)

/-- The host is read back as it was written. -/
theorem host?_server (hne : host ≠ []) :
    host? ⟨scheme, host ++ ':' :: port.repr.toList, path⟩ = some (String.ofList host) := by
  have hzone : ∀ c ∈ host, (c != '%') = true := fun c hc =>
    bne_iff_ne.mpr (ne_of_isHostChar (hhost c hc) (by decide))
  have hempty : host.isEmpty = false := by
    rw [List.isEmpty_eq_false_iff]
    exact hne
  simp only [host?, hostAndPort_repr port hhost, hempty, List.takeWhile_eq_self_iff.mpr hzone,
    List.dropWhile_eq_nil_iff.mpr hzone, lowerChars_of_isHostChar hhost, List.append_nil]
  rfl

/-- A port is read back as it was written, unless it is out of the range of ports. -/
theorem port?_repr :
    port? ⟨scheme, host ++ ':' :: port.repr.toList, path⟩ =
      if maxDigits < port.repr.toList.length then .error (.portTooLong port.repr.toList.length)
      else if 65535 < port then .error .portOutOfRange
      else .ok (some port) := by
  have hempty : port.repr.toList.isEmpty = false := by
    rw [Nat.toList_repr, List.isEmpty_eq_false_iff]
    exact Nat.toDigits_ne_nil
  have hdigits : port.repr.toList.all isAsciiDigit = true := by
    rw [List.all_eq_true]
    exact fun _ hc => isAsciiDigit_of_mem_repr hc
  simp only [port?, hostAndPort_repr port hhost, hempty, hdigits, ofAsciiDigits_repr]
  rfl

theorem port?_server (hport : port ≤ 65535) :
    port? ⟨scheme, host ++ ':' :: port.repr.toList, path⟩ = .ok (some port) := by
  have hlength : ¬ maxDigits < port.repr.toList.length := by
    rw [Nat.toList_repr, Nat.not_lt]
    have hfive : (Nat.toDigits 10 port).length ≤ 5 :=
      (Nat.length_toDigits_le_iff (by decide) (by decide)).mpr (by omega)
    exact Nat.le_trans hfive (by decide)
  rw [port?_repr port hhost, if_neg hlength, if_neg (Nat.not_lt.mpr hport)]

theorem port?_server_of_lt (hport : 65535 < port) :
    ∃ error, port? ⟨scheme, host ++ ':' :: port.repr.toList, path⟩ = .error error := by
  rw [port?_repr port hhost, if_pos hport]
  split
  · exact ⟨_, rfl⟩
  · exact ⟨_, rfl⟩

end

end SqlBackend.Address
