import OdooKeeper.Text.Blank
import OdooKeeper.Text.Segments

/-! # Label selectors

A selector lists labels as `key=value`, separated by commas. -/

namespace OdooKeeper.Selector

/-- The label of one segment. A segment without `=` stands for none. -/
def labelOf? (segment : List Char) : Option (String × String) :=
  (Text.cutAt? '=' (Text.trimChars segment)).map fun (key, value) =>
    (String.ofList (Text.trimChars key), String.ofList (Text.trimChars value))

/-- The labels of a selector. Blanks around segments, keys and values do not count. -/
def parse (selector : String) : List (String × String) :=
  (Text.segmentsOf ',' selector.toList).filterMap labelOf?

end OdooKeeper.Selector
