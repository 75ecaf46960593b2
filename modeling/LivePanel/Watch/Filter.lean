import LivePanel.File.Path

/-!
# Template files

Which files of a directory are templates: those whose name is a stem, a point and one of
the extensions, unless a name on the way from the directory to them is one that is not
looked into.
-/

namespace LivePanel.Watch

/-- The extensions of templates unless asked otherwise. -/
def defaultExtensions : List String := ["panel.yaml", "panel.yml", "yaml", "yml"]

/-- The names of directories that are not looked into. -/
def ignoredNames : List String := [".git", "node_modules", "target"]

/-- Whether a file name ends in the extension after a stem and a point. -/
def hasExtension (name ext : String) : Bool :=
  match Text.dropTail? ext.toList name.toList with
  | some stem => 1 < stem.length && stem.getLast? == some '.'
  | none => false

/-- Whether a file name is one of a template. -/
def isTemplateName (extensions : List String) (name : String) : Bool :=
  extensions.any (hasExtension name)

/-- Whether one of the parts is a name that is not looked into. -/
def isIgnored (ps : List Path.Part) : Bool := ps.any fun p => p.text ∈ ignoredNames

/-- Whether the path is one of a template below a directory. -/
def isTemplate (extensions : List String) (dir path : String) : Bool :=
  !isIgnored ((Path.below? dir path).getD (Path.parts path)) &&
    ((Path.name? path).map (isTemplateName extensions)).getD false

end LivePanel.Watch
