import ParserTables.Text.Basic

/-! Lists of items broken into lines.

Items are separated by commas. A line is ended where the next item would make it too
long, as far as the column goes: the column counts an item, its comma and, from the
second item of a line on, the two characters before it. -/
namespace ParserTables.Wrapped

/-- What follows an item that ends at a column: the other items, with a new line before an
item for which the column leaves no room. -/
def more (indent : Text) (width column : Nat) : List Text → Text
  | [] => []
  | item :: rest =>
    let size := Text.byteLength item
    if width < column + size + 2 then
      ",\n".toList ++ indent ++ item ++ more indent width (size + 1) rest
    else
      ", ".toList ++ item ++ more indent width (column + 2 + (size + 1)) rest

/-- The items as a list in lines of at most `width` bytes, as far as single items fit. All
lines but the first start with `indent`, which does not count. -/
def text (indent : Text) (width : Nat) : List Text → Text
  | [] => []
  | item :: rest => item ++ more indent width (Text.byteLength item + 1) rest

end ParserTables.Wrapped
