import SqlDialects.Engine.Scripted
import SqlDialects.Proofs.Session.Runs

/-!
# Sample sessions

The sessions on which theorems about all sessions are tried out.

**View.**  An engine is in use, or there is a factory that is still to make it.  A scripted engine
answers as a script says, and the world in which it works is the script and the calls that it has got.

**Results.**
* `Session.run_engine_inUse`: an engine that is in use is the one that is obtained.
-/

namespace SqlDialects

namespace Session

variable {σ α : Type}

/-- A session in which nothing has happened.  Every engine that it makes is this one. -/
def idle (e : Engine σ α) (world : σ) : Session σ α :=
  .start ⟨"1.0", fun _ => e⟩ world .null

/-- A session in which an engine is in use. -/
def inUse (e : Engine σ α) (world : σ) : Session σ α :=
  { idle e world with engine := some ⟨e, 0⟩ }

/-- A session with a factory that has not made its engine yet. -/
def supplied (e : Engine σ α) (world : σ) : Session σ α :=
  { idle e world with factory := some (Task.ofExcept (.ok e)) }

theorem run_engine_inUse (e : Engine σ α) (world : σ) :
    Action.run Action.engine (inUse e world) = (.ok e, inUse e world) := rfl

end Session

namespace Scripted

/-- The engine of a version whose script holds no reports on texts. -/
def reportless (version : String) : Engine State Value :=
  engine version fun _ => .error default

/-- A session in which nothing has happened.  Engines that it makes follow the script. -/
def begun (script : Script Method) : Session State Value :=
  .idle (reportless "1.0") ⟨script, []⟩

/-- A session in which an engine that follows the script is in use. -/
def served (script : Script Method) : Session State Value :=
  .inUse (reportless "1.0") ⟨script, []⟩

theorem run_engine_served (script : Script Method) :
    Action.run Action.engine (served script) = (.ok (reportless "1.0"), served script) :=
  Session.run_engine_inUse _ _

end Scripted
end SqlDialects
