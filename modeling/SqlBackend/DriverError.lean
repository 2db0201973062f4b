import SqlBackend.Value

/-!
# Errors as drivers raise them

A driver raises an error with arguments and may put further attributes on it, its arguments among
them. A failure of the operating system reads its arguments: with two to five of them, the first is
its number, the second says what that means, the third names a file, and the fifth another one. These
parts become attributes of the error, and the files are no arguments any more.
-/

namespace SqlBackend.DriverError

/-- The number and the meaning among the arguments of a failure of the operating system. -/
def numberParts : List Value → List (String × Value)
  | number :: meaning :: rest =>
    if rest.length ≤ 3 then [("errno", number), ("strerror", meaning)] else []
  | _ => []

/-- One file or two; null is no file, and without a first file there is no other. -/
def namedFiles : Value → Value → List (String × Value)
  | .null, _ => []
  | file, .null => [("filename", file)]
  | file, other => [("filename", file), ("filename2", other)]

/-- The files among the arguments of a failure of the operating system. -/
def fileParts : List Value → List (String × Value)
  | [_, _, file] => namedFiles file .null
  | [_, _, file, _] => namedFiles file .null
  | [_, _, file, _, other] => namedFiles file other
  | _ => []

/-- The arguments that an error keeps: files are none, and arguments put on it later replace those
that it was raised with. -/
def keptArguments (args : List Value) (files attributes : List (String × Value)) : List Value :=
  match (attributes.lookup "args").bind Value.elements? with
  | some items => items
  | none => if files.isEmpty then args else args.take 2

/-- The error raised with the given arguments, with further attributes put on it. -/
def ofArguments (severity : Severity) (tag : String) (args : List Value)
    (attributes : List (String × Value)) : DriverError :=
  let numbers := if severity = .system then numberParts args else []
  let files := if severity = .system then fileParts args else []
  { severity := severity, tag := tag
    args := keptArguments args files attributes
    attributes := attributes ++ numbers ++ files }

end SqlBackend.DriverError
