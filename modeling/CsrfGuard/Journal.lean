import CsrfGuard.Error

/-!
# The journal

The guard and the demonstration site write records into a journal: each has a level, the name of the
logger that wrote it, and a text. A journal lets through the records of its level and above. It
starts without a sink and at the warning level, and is set up once: the first set-up attaches the
sink, and later ones change nothing.
-/

namespace CsrfGuard

/-- The levels at which records are written. -/
inductive Level where
  | debug
  | info
  | warning
  deriving Repr, DecidableEq

namespace Level

def name : Level → String
  | debug => "DEBUG"
  | info => "INFO"
  | warning => "WARNING"

def rank : Level → Int
  | debug => 10
  | info => 20
  | warning => 30

end Level

structure Record where
  level : Level
  logger : String
  message : String
  deriving Repr, DecidableEq

/-- How a journal is asked for a level. -/
inductive LevelChoice where
  | named (name : String)
  /-- A level by its rank, which may be any number. -/
  | ranked (rank : Int)
  deriving Repr, DecidableEq

namespace LevelChoice

/-- The names of levels, in capitals, and their ranks. Two levels have two names. -/
def ranks : List (String × Int) :=
  [("CRITICAL", 50), ("FATAL", 50), ("ERROR", 40), ("WARNING", 30), ("WARN", 30), ("INFO", 20),
    ("DEBUG", 10), ("NOTSET", 0)]

/-- Whether a choice stands for no choice: the empty name and the rank zero do. -/
def isEmpty : LevelChoice → Bool
  | named name => name = ""
  | ranked rank => rank = 0

/-- The rank that a choice asks for. -/
def rank : LevelChoice → Except GuardError Int
  | named name =>
      match ranks.lookup name with
      | some rank => .ok rank
      | none => .error (.unknownLevel name)
  | ranked rank => .ok rank

end LevelChoice

structure Journal where
  /-- The rank from which on records are let through. -/
  threshold : Int
  /-- How the sink writes a record down, if there is a sink. -/
  sink : Option String
  deriving Repr, DecidableEq

namespace Journal

/-- What a line of the journal looks like: the time, the level, the logger and the text. -/
def lineFormat : String := "%(asctime)s %(levelname)s %(name)s %(message)s"

/-- The journal before it is set up. -/
def initial : Journal := ⟨30, none⟩

/-- The level in force for a choice that may be missing: without a real choice the default. -/
def effectiveChoice (fallback : String) : Option LevelChoice → LevelChoice
  | some choice => if choice.isEmpty then .named fallback else choice
  | none => .named fallback

/-- Sets the journal up at the chosen level, or at the default level without a choice. Nothing
happens if a sink is attached already. Otherwise one is attached, also if the level then turns out
to be unknown and the threshold stays. -/
def setUp (journal : Journal) (fallback : String) (choice : Option LevelChoice) :
    Except GuardError Unit × Journal :=
  if journal.sink.isSome then (.ok (), journal)
  else
    match (effectiveChoice fallback choice).rank with
    | .ok rank => (.ok (), ⟨rank, some lineFormat⟩)
    | .error cause => (.error cause, { journal with sink := some lineFormat })

def passes (journal : Journal) (record : Record) : Bool :=
  journal.threshold ≤ record.level.rank

end Journal

end CsrfGuard
