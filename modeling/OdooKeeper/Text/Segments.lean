/-! # Segments

Texts cut at a separator, and put together again. -/

namespace OdooKeeper.Text

/-- The pieces between the separators: always one more than there are separators. -/
def segmentsOf (sep : Char) : List Char → List (List Char)
  | [] => [[]]
  | c :: rest =>
    if c = sep then [] :: segmentsOf sep rest
    else match segmentsOf sep rest with
      | [] => [[c]]
      | first :: others => (c :: first) :: others

def segments (sep : Char) (text : String) : List String :=
  (segmentsOf sep text.toList).map String.ofList

/-- What stands before and after the first separator, if there is one. -/
def cutAt? (sep : Char) : List Char → Option (List Char × List Char)
  | [] => none
  | c :: rest =>
    if c = sep then some ([], rest)
    else (cutAt? sep rest).map fun (before, after) => (c :: before, after)

end OdooKeeper.Text
