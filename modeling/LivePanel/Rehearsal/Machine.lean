import LivePanel.File.Disk

/-!
# The machine of a rehearsal

The disk that a rehearsal has: the usual directories below the root, and a directory of its
own, from which relative paths start.
-/

namespace LivePanel.Rehearsal

/-- The directories below the root, and some of those below these. -/
def usualDirectories : List (List String) :=
  ["bin", "boot", "dev", "etc", "home", "lib", "media", "mnt", "opt", "proc", "root", "run", "sbin",
    "srv", "sys", "tmp", "usr", "var"].map (fun name => [name]) ++
    ["bin", "include", "lib", "local", "sbin", "share", "src"].map (fun name => ["usr", name]) ++
    ["cache", "lib", "local", "log", "mail", "opt", "spool", "tmp"].map fun name => ["var", name]

/-- The names of the directory of the rehearsal. -/
def scratchNames : List String := ["tmp", "scratch"]

/-- The path of the directory of the rehearsal. -/
def scratch : String := "/" ++ Path.ofNames scratchNames

/-- The disk, with some entry for the directory of the rehearsal. -/
def machineWith (e : Entry) : Disk :=
  let root := usualDirectories.foldl (fun root names => root.put names .empty) Entry.empty
  ⟨root.put scratchNames e, scratchNames⟩

/-- The disk, with nothing in the directory of the rehearsal. -/
def machine : Disk := machineWith .empty

end LivePanel.Rehearsal
