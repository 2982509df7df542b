import Linewise.Document

/-!
What a file holds, or why it cannot be read as text or written.
-/
namespace Linewise

inductive FileError
  | notFound
  | notADirectory
  | isADirectory
  | notUtf8
  /-- Whatever else the system refuses, by its number and in its words. -/
  | refused (code : UInt32) (reason : String)
deriving DecidableEq, Repr

def FileError.message : FileError → String
  | notFound => "No such file or directory (os error 2)"
  | notADirectory => "Not a directory (os error 20)"
  | isADirectory => "Is a directory (os error 21)"
  | notUtf8 => "stream did not contain valid UTF-8"
  | refused code reason => reason ++ " (os error " ++ toString code ++ ")"

/-- The bytes of a file or of a stream, if they can be read at all. -/
abbrev Contents := Except FileError ByteArray

namespace Contents

/-- The text in some contents, all of which must be UTF-8. -/
def text (contents : Contents) : Except FileError String :=
  contents.bind fun bytes =>
    match String.fromUTF8? bytes with
    | some s => .ok s
    | none => .error .notUtf8

def document (contents : Contents) : Except FileError Document :=
  contents.text.map Document.ofText

end Contents

end Linewise
