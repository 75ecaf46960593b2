import LivePanel.File.Path
import LivePanel.Value.Basic
import LivePanel.Watch.Filter

/-!
# Settings

What a user may choose: where templates are and how they are watched, how much is kept
and passed on, how deep a panel may nest, and what is logged. Every part has defaults.
-/

namespace LivePanel

/-- Where templates are and how they are watched. -/
structure TemplateSettings where
  directory : String := "panels"
  extensions : List String := Watch.defaultExtensions
  hotReload : Bool := true
  debounce : Nat := 200
deriving DecidableEq

/-- How much is kept. -/
structure CacheSettings where
  activities : Nat := 50
deriving DecidableEq

/-- How much is passed on. -/
structure EventSettings where
  channelCapacity : Nat := 256
  emitDepth : Nat := 8
deriving DecidableEq

/-- How panels are built. -/
structure BuildSettings where
  maxDepth : Nat := 32
  warnUnusedActions : Bool := true
deriving DecidableEq

/-- What is logged. -/
structure LogSettings where
  level : String := "info"
  format : String := "pretty"
  directives : List String := []
deriving DecidableEq

/-- All settings. -/
structure Settings where
  templates : TemplateSettings := {}
  cache : CacheSettings := {}
  events : EventSettings := {}
  build : BuildSettings := {}
  logging : LogSettings := {}
deriving DecidableEq

/-- The template directory of a project whose root is given. -/
def TemplateSettings.directoryIn (t : TemplateSettings) (root : String) : String :=
  Path.join root t.directory

/-- Whether the file at a path is named like a template. -/
def TemplateSettings.admits (t : TemplateSettings) (path : String) : Bool :=
  ((Path.name? path).map (Watch.isTemplateName t.extensions)).getD false

namespace Settings

/-- The settings as a tree of values, as a document writes them. -/
def toValue (s : Settings) : Value :=
  .ofPairs [
    ("templates", .ofPairs [
      ("directory", .str s.templates.directory),
      ("extensions", .ofStrings s.templates.extensions),
      ("hot_reload", .bool s.templates.hotReload),
      ("debounce_ms", .ofNat s.templates.debounce)]),
    ("cache", .ofPairs [("activity_log_capacity", .ofNat s.cache.activities)]),
    ("events", .ofPairs [
      ("channel_capacity", .ofNat s.events.channelCapacity),
      ("max_emit_depth", .ofNat s.events.emitDepth)]),
    ("build", .ofPairs [
      ("max_depth", .ofNat s.build.maxDepth),
      ("warn_unused_actions", .bool s.build.warnUnusedActions)]),
    ("logging", .ofPairs [
      ("level", .str s.logging.level),
      ("format", .str s.logging.format),
      ("directives", .ofStrings s.logging.directives)])]

/-- Whether a document can write the settings: its whole numbers are smaller than `2^63`. -/
def isWritable (s : Settings) : Bool :=
  [s.templates.debounce, s.cache.activities, s.events.channelCapacity, s.events.emitDepth,
    s.build.maxDepth].all (· < Nat.pow 2 63)

end Settings

end LivePanel
