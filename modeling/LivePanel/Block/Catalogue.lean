import LivePanel.Block.Registry
import LivePanel.Panel.Bridge
import LivePanel.Toml.Document

/-!
# Catalogues of blocks

A catalogue lists the metadata of blocks. Where no host draws panels, every block of a
catalogue stands for the element of its id, so that templates can be checked and built.
There is a catalogue for those who have none.
-/

namespace LivePanel.Catalogue

/-- The metadata of a block of a category. -/
def block (category id name : String) (inputs outputs : List Port := []) : Metadata :=
  { id := id, name := name, category := category, inputs := inputs, outputs := outputs }

/-- The catalogue that stands where no other is given. -/
def standard : List Metadata := [
  block "layout" "root" "Root",
  block "layout" "panel" "Panel" [⟨"title", "string", false⟩],
  block "layout" "row" "Row",
  block "layout" "column" "Column",
  block "content" "text" "Text" [⟨"value", "string", true⟩],
  block "content" "banner" "Banner",
  block "content" "image" "Image" [⟨"src", "string", true⟩],
  block "content" "icon" "Icon",
  block "input" "button" "Button" [⟨"label", "string", true⟩] [⟨"click", "event", false⟩],
  block "input" "input" "Input" [⟨"placeholder", "string", false⟩] [⟨"change", "event", false⟩],
  block "layout" "list" "List" [⟨"items", "array", false⟩]]

/-- The blocks that a document lists. A moment is read as an empty part. -/
def ofDocument? (d : Toml.Datum) : Option (List Metadata) :=
  match (d.toValue fun _ => .obj []).field? "block" with
  | none => some []
  | some v => v.listOf? Metadata.ofValue?

/-- The blocks that a text lists. -/
def ofText? (s : String) : Option (List Metadata) := (Toml.ofText? s).bind ofDocument?

/-- Register a block as the element of its id; where that is refused, the id comes with the
reason. -/
def add (r : Registry Bridge) (m : Metadata) :
    Except (String × RegistryError) (Registry Bridge) :=
  (r.register (.element m)).mapError (m.id, ·)

/-- A registry of the blocks of a catalogue. -/
def registry (ms : List Metadata) : Except (String × RegistryError) (Registry Bridge) :=
  ms.foldlM add []

end LivePanel.Catalogue
