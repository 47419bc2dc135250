import NetaAgent.Process
import NetaAgent.UpgradeActivation

/-!
What the upgrade worker works on: the state directory, the downloads, the version directories and
the switch to the current one, and the operations on them.

An operation of the file system is one step. Unpacking, copying and removing a directory are not
atomic: they are two steps, and between them, or after a failure, the directory holds any tree.
-/

namespace NetaAgent.UpgradeWorker

open Decimal Upgrade UpgradeJson NetaAgent.Process Proc

/-! ### Directories -/

/-- The regular files below a directory, by their path in it. -/
abbrev Tree := List (List Text × Text)

/-- An entry of the installation root that selects a version. -/
inductive Entry where
  | missing
  | link (target : Text)
  | dir (tree : Tree)
  deriving DecidableEq

def agentName : Platform → Text
  | .linux => "neta-agent"
  | .windows => "neta-agent.exe"

variable (p : Platform) (l : Op) (t : Tree)

def agentPaths : List (List Text) :=
  (t.map Prod.fst).filter fun path => path.getLast? = some (agentName p)

def findPackagedAgent : Except Text (List Text) :=
  match agentPaths p t with
  | [] => .error "upgrade package does not contain neta-agent executable"
  | [path] => .ok path
  | _ => .error "upgrade package contains multiple agent executables"

def subtree (dir : List Text) (t : Tree) : Tree :=
  t.filterMap fun f => if dir <+: f.1 then some (f.1.drop dir.length, f.2) else none

/-- The directory that holds the agent, as a tree of its own. -/
def packageRoot : Except Text Tree :=
  (findPackagedAgent p t).map fun path => subtree path.dropLast t

/-! ### The disk -/

structure Disk where
  files : Files
  /-- `installed-build.conf`. -/
  conf : Option Text
  /-- `installed-build.previous.conf`. -/
  backup : Option Text
  /-- `installed-build.previous.absent`. -/
  absent : Bool
  /-- The files below `downloads`, by their path. -/
  downloads : Text → Option Text
  /-- The directories below `versions`, the staging directories among them. -/
  versions : Text → Option Tree
  current : Entry
  previous : Entry
  service : Bool

structure Decision where
  /-- The error, if the operation fails. -/
  fails : Option Text
  /-- What an unfinished operation leaves in its directory. -/
  left : Tree
  /-- What the server sends. -/
  fetched : Text
  /-- Whether a removal whose error is ignored took effect, and whether the agent is healthy. -/
  holds : Bool

inductive File where
  | current | activation | conf
  deriving DecidableEq

def Disk.get (s : Disk) : File → Option Text
  | .current => s.files.current
  | .activation => s.files.activation
  | .conf => s.conf

def Disk.set (s : Disk) (content : Option Text) : File → Disk
  | .current => { s with files := { s.files with current := content } }
  | .activation => { s with files := { s.files with activation := content } }
  | .conf => { s with conf := content }

inductive Op where
  | read (f : File)
  | prepare (f : File)
  | replace (f : File)
  | clear (f : File)
  | replaceAgain (f : File)
  | download
  | verify
  | versions
  | unpack
  | moveVersion
  | copyVersion
  | stop
  | start
  | removePrevious
  | keepPrevious
  | switch
  | rollback
  | health
  | snapshot
  | restore
  /-- An operation of the handler of the worker. -/
  | back (op : Op)
  deriving DecidableEq

abbrev Worker := Proc Disk Decision Op Text

/-- An operation that fails without a trace, or has this effect. -/
def effect (f : Decision → Disk → Disk) : Worker Unit :=
  .act l fun d s =>
    match d.fails with
    | some e => (.error e, s)
    | none => (.ok (), f d s)

/-- An operation whose error is ignored: it may have had its effect or not. -/
def attempt (f : Disk → Disk) : Worker Unit :=
  .act l fun d s => (.ok (), if d.holds then f s else s)

/-- An operation that reports its error instead of throwing it. -/
def reporting (f : Disk → Disk) : Worker (Option Text) :=
  .act l fun d s => (.ok d.fails, if d.fails = none then f s else s)

def look {α : Type} (f : Disk → Except Text α) : Worker α :=
  .act l fun d s =>
    match d.fails with
    | some e => (.error e, s)
    | none => (f s, s)

def throwing {α : Type} (e : Text) : Worker α := .fail e

/-- `atomic_write`: the new content is prepared aside and renamed over the file. Windows removes
the file and tries again when that fails. -/
def atomicWrite (f : File) (content : Text) : Worker Unit := do
  effect (.prepare f) fun _ s => s
  match ← reporting (.replace f) fun s => s.set (some content) f, p with
  | none, _ => pure ()
  | some e, .linux => throwing e
  | some _, .windows =>
    attempt (.clear f) fun s => s.set none f
    effect (.replaceAgain f) fun _ s => s.set (some content) f

/-! ### What the operations keep -/

section
variable {P : Disk → Prop} {l : Op}

lemma keeps_effect {f : Decision → Disk → Disk} (h : ∀ d s, P s → P (f d s)) :
    Proc.Keeps P (effect l f) := keeps_act fun d s hs => by
    cases hd : d.fails with
    | none => simpa only [hd] using h d s hs
    | some e => simpa only [hd] using hs

lemma keeps_attempt {f : Disk → Disk} (h : ∀ s, P s → P (f s)) : Proc.Keeps P (attempt l f) :=
  keeps_act fun d s hs => by
    by_cases hd : d.holds
    · simpa only [if_pos hd] using h s hs
    · simpa only [if_neg hd] using hs

lemma keeps_reporting {f : Disk → Disk} (h : ∀ s, P s → P (f s)) : Proc.Keeps P (reporting l f) :=
  keeps_act fun d s hs => by
    by_cases hd : d.fails = none
    · simpa only [hd, if_true] using h s hs
    · simpa only [if_neg hd] using hs

lemma keeps_look {α : Type} {f : Disk → Except Text α} : Proc.Keeps P (look l f) :=
  keeps_act fun d s hs => by
    cases hd : d.fails <;> simpa only [hd] using hs

lemma keeps_atomicWrite {p : Platform} {f : File} {content : Text}
    (h : ∀ c s, P s → P (s.set c f)) : Proc.Keeps P (atomicWrite p f content) := by
  refine (keeps_effect fun _ _ hs => hs).bind fun _ => (keeps_reporting (h _)).bind fun r => ?_
  cases r with
  | none => exact keeps_ret ()
  | some e =>
    cases p with
    | linux => exact keeps_fail e
    | windows => exact (keeps_attempt (h _)).bind fun _ => keeps_effect fun _ => h _

end

end NetaAgent.UpgradeWorker
