import SqlDialects.Library.Engine
import SqlDialects.Proofs.CommandLine.Commands
import SqlDialects.Proofs.Session.Consulting
import SqlDialects.Proofs.Settings.Reloading

/-!
# Loaded settings are taken

Settings that have been loaded are taken by whatever works with them: hosts and commands that leave a
dialect out, the log and the standard engine.

**Results.**
* `Settings.accepted`: the default dialect is known, the log has the level, the standard engine can be
  made, and the settings load as themselves.
-/

namespace SqlDialects
namespace Settings

/-- What becomes of settings that have been loaded from sources. -/
structure Accepted (src : Sources) (s : Settings) : Prop where
  /-- The default dialect is known by its name, and is what the name stands for. -/
  resolved : Dialect.resolve? s.defaultDialect.name = some s.defaultDialect
  /-- A host that leaves a dialect out while the settings are in use works in the default dialect. -/
  hosted : ∀ {σ α : Type} (p : Session σ α) (number : Nat), p.settings = some ⟨s, number⟩ →
    Action.run (Action.chosenName .unspecified >>= Action.resolve) p = (.ok s.defaultDialect, p)
  /-- So does a command that leaves it out or empty where these are the settings. -/
  commanded : ∀ {σ α : Type} (p : Session σ α) (option : Option String), src = p.sources →
    CommandLine.isOpen option = true →
    (Action.run (CommandLine.givenDialect option >>= Action.resolve) p).1 = .ok s.defaultDialect
  /-- The name of the log level is known, and the log gets that level unless debugging is on. -/
  logged : ∃ level, Log.level? s.logLevel = some level ∧
    ∀ {σ α : Type} (p : Session σ α) (sink : Log.Sink),
      ∃ layout, Action.run (Action.configureLogging s sink) p =
        (.ok (), p.withJournal
          (p.journal.configure layout sink (if s.debug then Log.debug else level)))
  /-- The standard engine can be made of the name of the level, and has the level. -/
  made : Library.level? s.unsupportedLevel.label = .ok s.unsupportedLevel
  /-- All fields as overrides, beside the overrides that concern the search, give the settings. -/
  reloaded : load (src.settledAs s) = .ok s

theorem run_resolve_name
    {σ α : Type}
    (d : Dialect)
    (p : Session σ α) :
    Action.run (Action.resolve d.name) p = (.ok d, p) := by
  rw [Action.run_resolve, d.resolve?_name]
  rfl

/-- Settings that load are taken by whatever works with them, and load as themselves. -/
theorem accepted
    {src : Sources} {s : Settings}
    (h : load src = .ok s) :
    Accepted src s where
  resolved := s.defaultDialect.resolve?_name
  hosted := by
    intro σ α p number hp
    rw [Action.chosenName_of_none (c := .unspecified) rfl, bind_assoc,
      Action.run_bind_of_ok (Action.run_cachedSettings_of_inUse hp), DialectChoice.filled,
      Action.chosenName_of_name? (c := .member _) rfl, pure_bind, run_resolve_name]
  commanded := by
    rintro σ α p option rfl hopen
    have hloaded : CommandLine.isOpen option = true →
        ∃ t, CommandLine.loaded p [] = .ok t ∧ t.defaultDialect.name = s.defaultDialect.name :=
      fun _ => ⟨s, h, rfl⟩
    obtain ⟨j, hj⟩ := CommandLine.run_inDialect (fun _ => Action.resolve) "" hloaded
    rw [CommandLine.inDialect, CommandLine.chosen, if_pos hopen, run_resolve_name] at hj
    rw [hj]
  logged := by
    obtain ⟨level, hlevel⟩ := Option.isSome_iff_exists.mp (isSome_level?_of_load h)
    refine ⟨level, hlevel, fun p sink => ⟨if s.structuredLogging then .json else .text, ?_⟩⟩
    rw [Action.configureLogging, Action.run_modify, Settings.level, hlevel]
    rfl
  made := by
    have hlower : Text.lower s.unsupportedLevel.label = s.unsupportedLevel.label := by
      cases s.unsupportedLevel <;> decide +kernel
    rw [Library.level?, hlower]
    cases s.unsupportedLevel <;> rfl
  reloaded := load_settledAs h

/-- Sources with an override that leaves the file out, another one in capitals, and variables in
either case.  The file defines what is no field. -/
def scattered : Sources :=
  ⟨[("_env_file", .null), ("LOG_LEVEL", .text "fatal")],
    [("polyglot_default_dialect", "Post-Gres"), ("POLYGLOT_UNSUPPORTED_LEVEL", "ignore")],
    some "nonsense=1\n"⟩

theorem accepted_scattered :
    load scattered = .ok ⟨false, "FATAL", false, .postgres, .ignore⟩ ∧
    Accepted scattered ⟨false, "FATAL", false, .postgres, .ignore⟩ := by
  have hload : load scattered = .ok ⟨false, "FATAL", false, .postgres, .ignore⟩ :=
    load_eq_ok_of_toOption (by decide +kernel)
  exact ⟨hload, accepted hload⟩

end Settings
end SqlDialects
