/-!
# Session labels

A session is labelled with the name that the caller chose and a random end that tells sessions
apart. Labels have at most sixty-four characters of a small alphabet, so a name is first made to
fit: other characters become hyphens, a long name is cut and a short one is filled up.
-/
namespace RemoteQuery.SessionLabel

def maxLength : Nat := 64

def minLength : Nat := 2

/-- The number of digits of the random end. -/
def suffixLength : Nat := 8

def isAllowed (c : Char) : Bool := c.isAlphanum || "+=,.@_-".toList.contains c

def sanitizedChars (name : List Char) : List Char :=
  let label := (name.take maxLength).map fun c => if isAllowed c then c else '-'
  label ++ List.replicate (minLength - label.length) '-'

def sanitize (name : String) : String := String.ofList (sanitizedChars name.toList)

/-- What of the name fits in front of the hyphen and the random end. -/
def base (name : String) : String :=
  String.ofList ((sanitizedChars name.toList).take (maxLength - suffixLength - 1))

def make (name suffix : String) : String := base name ++ "-" ++ suffix

end RemoteQuery.SessionLabel
