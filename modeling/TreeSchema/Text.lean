/-!
# Splitting and joining text
-/

namespace TreeSchema.Text

/-- The parts between the occurrences of `separator`; at least one part. -/
def split (separator : Char) : List Char → List (List Char)
  | [] => [[]]
  | c :: rest =>
    if c = separator then [] :: split separator rest
    else match split separator rest with
      | part :: parts => (c :: part) :: parts
      | [] => [[c]]

def splitFirst? (separator : Char) : List Char → Option (List Char × List Char)
  | [] => none
  | c :: rest =>
    if c = separator then some ([], rest)
    else (splitFirst? separator rest).map fun (before, after) => (c :: before, after)

def join (separator : String) : List String → String
  | [] => ""
  | [last] => last
  | text :: rest => text ++ separator ++ join separator rest

end TreeSchema.Text
