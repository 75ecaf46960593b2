import LivePanel.Template.Json

/-!
# What a build reports

Errors stand for parts of the panel that could not be built as the template says;
warnings change nothing in the panel.
-/

namespace LivePanel.Build

/-- A part of the template that could not be built. -/
inductive Error where
  | missingCapability (block path : String)
  | factoryFault (block path message : String)
  | invalidProp (block path prop message : String)
  | unknownAction (action path : String)
  | malformed (problem : SyntaxProblem)
deriving DecidableEq, Inhabited

/-- Something worth a remark. -/
inductive Warning where
  | unresolvedPath (expression path : String)
  | invalidExpression (expression path message : String)
  | deprecatedCapability (block notice : String)
  | unusedAction (action : String)
  | unknownIcon (block path : String)
deriving DecidableEq, Inhabited

namespace Error

/-- An error in one line. -/
def text : Error → String
  | missingCapability block path => path ++ ": capability '" ++ block ++ "' is not registered"
  | factoryFault block path message =>
    path ++ ": capability '" ++ block ++ "' failed: " ++ message
  | invalidProp block path prop message =>
    path ++ ": prop '" ++ prop ++ "' of '" ++ block ++ "' " ++ message
  | unknownAction action path => path ++ ": action '" ++ action ++ "' is not defined"
  | malformed problem => "syntax: " ++ problem.text

/-- The JSON form of an error. -/
def toValue : Error → Value
  | missingCapability block path =>
    .obj [("kind", .str "missing_capability"), ("block", .str block), ("path", .str path)]
  | factoryFault block path message =>
    .obj [("kind", .str "factory_fault"), ("block", .str block), ("path", .str path),
      ("message", .str message)]
  | invalidProp block path prop message =>
    .obj [("kind", .str "invalid_prop"), ("block", .str block), ("path", .str path),
      ("prop", .str prop), ("message", .str message)]
  | unknownAction action path =>
    .obj [("kind", .str "unknown_action"), ("action", .str action), ("path", .str path)]
  | malformed problem => .obj (("kind", .str "syntax") :: problem.toFields)

end Error

namespace Warning

/-- A warning in one line. -/
def text : Warning → String
  | unresolvedPath expression path => path ++ ": '" ++ expression ++ "' does not resolve"
  | invalidExpression expression path message =>
    path ++ ": invalid expression '" ++ expression ++ "': " ++ message
  | deprecatedCapability block notice =>
    "capability '" ++ block ++ "' is deprecated: " ++ notice
  | unusedAction action => "action '" ++ action ++ "' is never used"
  | unknownIcon block path => path ++ ": icon '" ++ block ++ "' is not registered"

/-- The JSON form of a warning. -/
def toValue : Warning → Value
  | unresolvedPath expression path =>
    .obj [("kind", .str "unresolved_path"), ("expression", .str expression), ("path", .str path)]
  | invalidExpression expression path message =>
    .obj [("kind", .str "invalid_expression"), ("expression", .str expression),
      ("path", .str path), ("message", .str message)]
  | deprecatedCapability block notice =>
    .obj [("kind", .str "deprecated_capability"), ("block", .str block), ("notice", .str notice)]
  | unusedAction action => .obj [("kind", .str "unused_action"), ("action", .str action)]
  | unknownIcon block path =>
    .obj [("kind", .str "unknown_icon"), ("block", .str block), ("path", .str path)]

end Warning

end LivePanel.Build
