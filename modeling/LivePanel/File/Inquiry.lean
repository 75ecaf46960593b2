import LivePanel.File.Disk

/-!
# Inquiries

A computation that asks for files on its way: for the content of a file, or for all that
is in a directory. What it comes to depends on nothing but the answers, which a disk gives
all at once (`Inquiry.answer`); a program may as well give them one by one.
-/

namespace LivePanel

/-- A computation that asks for files. -/
inductive Inquiry (α : Type) where
  | done (a : α)
  | read (path : String) (next : Except FileError ByteArray → Inquiry α)
  | survey (path : String) (next : Except FileError Entry → Inquiry α)

namespace Inquiry

variable {α β : Type}

/-- Go on with what an inquiry comes to. -/
def andThen (f : α → Inquiry β) : Inquiry α → Inquiry β
  | done a => f a
  | read path next => read path fun r => (next r).andThen f
  | survey path next => survey path fun r => (next r).andThen f

instance : Monad Inquiry where
  pure := done
  bind i f := i.andThen f

/-- Ask for the content of a file. -/
def contentOf (path : String) : Inquiry (Except FileError ByteArray) := read path done

/-- Ask for what stands at a path, with all that is in it. -/
def entryAt (path : String) : Inquiry (Except FileError Entry) := survey path done

/-- What an inquiry comes to on a disk. -/
def answer (d : Disk) : Inquiry α → α
  | done a => a
  | read path next => (next (d.read path)).answer d
  | survey path next => (next (d.find path)).answer d

end Inquiry

end LivePanel
