import SqlDialects.Proofs.Session.Naming
import SqlDialects.Proofs.Session.Provision

/-!
# Consulting the settings

Settings are loaded when they are first needed and are then in use.  They are needed outright, by a
host that leaves a dialect out, and by whoever needs the standard engine while there is none.

**View.**  `Consulting` lists the ways in which consulting the settings can go, from one session to
another.  An operation of a host leaves a dialect out (`HostOperation.leavesOut`), or else it comes to
an operation on texts (`HostOperation.operation?`), unless the tree that it is given cannot be
written.

**Results.**
* `Action.consulting_cachedSettings` and `Action.consulting_engine`: there are no other ways, be the
  settings consulted outright or for the standard engine.
* `HostOperation.action_of_leavesOut`: an operation that leaves dialects out consults the settings,
  and is then the operation in their default dialect.
-/

namespace SqlDialects

variable {σ α β γ : Type}

/-- Where settings come from that are loaded without overrides. -/
def Session.sources (p : Session σ α) : Settings.Sources :=
  ⟨[], p.environment, p.file⟩

/-! ## Consulting -/

/-- What consulting the settings does from one session to another, and the settings that are handed
out. -/
inductive Consulting (p q : Session σ α) : Option Cached → Prop where
  | inUse (c : Cached)
      (hsettings : p.settings = some c)
      (hq : q.settings = some c) : Consulting p q (some c)
  | loaded (s : Settings)
      (hsettings : p.settings = none)
      (hload : Settings.load p.sources = .ok s)
      (hq : q.settings = some ⟨s, p.settingsKept⟩) : Consulting p q (some ⟨s, p.settingsKept⟩)
  | refused (f : Failure)
      (hsettings : p.settings = none)
      (hload : Settings.load p.sources = .error f)
      (hq : q.settings = none) : Consulting p q none

namespace Consulting

variable {p q r : Session σ α} {handed : Option Cached}

/-- The settings that are handed out are in use afterwards; none are if none are handed out. -/
theorem settings_eq (h : Consulting p q handed) :
    q.settings = handed := by
  cases h <;> assumption

/-- Settings in use are the ones that are handed out. -/
theorem of_inUse
    {c : Cached}
    (h : Consulting p q handed)
    (hc : p.settings = some c) :
    handed = some c := by
  cases h with
  | inUse c' hsettings hq =>
      exact hsettings.symm.trans hc
  | loaded s hsettings hload hq | refused f hsettings hload hq =>
      rw [hsettings] at hc
      cases hc

/-- Without settings in use, the ones are handed out that can be loaded. -/
theorem of_unset
    (h : Consulting p q handed)
    (hnone : p.settings = none) :
    handed = (Settings.load p.sources).toOption.map fun s => ⟨s, p.settingsKept⟩ := by
  cases h with
  | inUse c hsettings hq =>
      rw [hnone] at hsettings
      cases hsettings
  | loaded s hsettings hload hq | refused f hsettings hload hq =>
      rw [hload]
      rfl

/-- What happens afterwards plays no part as long as it leaves the settings alone. -/
theorem of_settings_eq
    (h : Consulting p q handed)
    (hr : r.settings = q.settings) :
    Consulting p r handed := by
  cases h with
  | inUse c hsettings hq => exact .inUse c hsettings (hr.trans hq)
  | loaded s hsettings hload hq => exact .loaded s hsettings hload (hr.trans hq)
  | refused f hsettings hload hq => exact .refused f hsettings hload (hr.trans hq)

end Consulting

namespace Action

/-- Actions are the same if they run alike. -/
theorem eq_of_run
    {a b : Action σ α β}
    (h : ∀ p, run a p = run b p) :
    a = b :=
  funext h

theorem run_cachedSettings_of_inUse
    {p : Session σ α} {c : Cached}
    (h : p.settings = some c) :
    run cachedSettings p = (.ok c, p) := by
  simp [cachedSettings, run_bind, h]

theorem run_cachedSettings_of_unset
    {p : Session σ α}
    (h : p.settings = none) :
    run cachedSettings p =
      match Settings.load p.sources with
      | .ok s => (.ok ⟨s, p.settingsKept⟩, p.keeping s)
      | .error f => (.error f, p) := by
  cases p
  cases h
  simp only [cachedSettings, loadSettings, run_bind, run_get, run_ofExcept, Session.sources]
  cases Settings.load ⟨[], _, _⟩ <;> rfl

/-- The settings that are handed out, if consulting them succeeds. -/
def settled? (p : Session σ α) : Option Cached :=
  (run cachedSettings p).1.toOption

/-- Consulting the settings outright goes one of the three ways. -/
theorem consulting_cachedSettings (p : Session σ α) :
    Consulting p (run cachedSettings p).2 (settled? p) := by
  rw [settled?]
  cases hsettings : p.settings with
  | some c =>
      rw [run_cachedSettings_of_inUse hsettings]
      exact .inUse c hsettings hsettings
  | none =>
      rw [run_cachedSettings_of_unset hsettings]
      cases hload : Settings.load p.sources with
      | ok s => exact .loaded s hsettings hload rfl
      | error f => exact .refused f hsettings hload hsettings

/-- Settings that are consulted in vain leave the session as it was. -/
theorem run_cachedSettings_of_error
    {p q : Session σ α} {f : Failure}
    (h : run cachedSettings p = (.error f, q)) :
    q = p := by
  cases hsettings : p.settings with
  | some c =>
      rw [run_cachedSettings_of_inUse hsettings] at h
      cases h
  | none =>
      rw [run_cachedSettings_of_unset hsettings] at h
      split at h
      · cases h
      · cases h
        rfl

/-- Consulting the settings does not touch what provides the engine. -/
theorem provision_cachedSettings (p : Session σ α) :
    (run cachedSettings p).2.provision = p.provision := by
  cases hsettings : p.settings with
  | some c =>
      rw [run_cachedSettings_of_inUse hsettings]
  | none =>
      rw [run_cachedSettings_of_unset hsettings]
      split <;> rfl

/-- Settings that have been consulted are the same when they are consulted once more. -/
theorem cachedSettings_bind_twice (f : Cached → Cached → Action σ α β) :
    (cachedSettings >>= fun c => cachedSettings >>= f c) = (cachedSettings >>= fun c => f c c) := by
  refine eq_of_run fun p => ?_
  have hconsulting := consulting_cachedSettings p
  rw [run_bind, run_bind]
  rw [settled?] at hconsulting
  generalize run cachedSettings p = result at hconsulting
  rcases result with ⟨e | c, q⟩
  · rfl
  · exact run_bind_of_ok (run_cachedSettings_of_inUse hconsulting.settings_eq) (f c)

/-- The standard engine is made of the settings that are handed out. -/
theorem consulting_engine
    {p : Session σ α}
    (hengine : p.engine = none)
    (hfactory : p.factory = none) :
    Consulting p (run engine p).2 (settled? p) := by
  rw [settled?]
  cases hsettings : p.settings with
  | some c =>
      rw [run_engine_of_settings hengine hfactory hsettings, run_cachedSettings_of_inUse hsettings]
      exact .inUse c hsettings hsettings
  | none =>
      rw [run_engine_of_environment hengine hfactory hsettings, run_cachedSettings_of_unset hsettings]
      cases hload : Settings.load p.sources with
      | ok s =>
          rw [Session.sources] at hload
          rw [hload]
          exact .loaded s hsettings hload rfl
      | error f =>
          rw [Session.sources] at hload
          rw [hload]
          exact .refused f hsettings hload hsettings

/-- An engine in use and a registered factory leave the settings alone. -/
theorem settings_run_engine
    {p : Session σ α}
    (h : p.engine ≠ none ∨ p.factory ≠ none) :
    (run engine p).2.settings = p.settings := by
  cases hengine : p.engine with
  | some s =>
      rw [run_engine_of_served hengine]
  | none =>
      obtain ⟨f, hf⟩ := Option.ne_none_iff_exists'.mp (h.resolve_left (absurd hengine))
      rw [run_engine_of_factory hengine hf]
      rcases Task.run f p.scene with ⟨_ | e, s⟩ <;> rfl

end Action

/-! ## Operations of hosts -/

/-- The name that a choice gives, if it gives one. -/
def DialectChoice.name? : DialectChoice → Option String
  | .unspecified => none
  | .member d => some d.name
  | .name s => some s

/-- The choice, with a dialect in place of one that is left out. -/
def DialectChoice.filled (d : Dialect) : DialectChoice → DialectChoice
  | .unspecified => .member d
  | c => c

/-- The payload that a host's tree is written as, if it can be written. -/
def Value.payload? (tree : Value) : Option String :=
  match tree.text? with
  | some s => some s
  | none => (Value.encode Json.ascii tree).toOption

namespace HostOperation

/-- Whether the tree that the operation is given, if it is given one, can be written. -/
def isWritten : HostOperation → Bool
  | .generate tree _ => tree.payload?.isSome
  | _ => true

/-- Whether the operation leaves a dialect out. -/
def leavesOut : HostOperation → Bool
  | .transpile _ source target => source.name?.isNone || target.name?.isNone
  | .parse _ d | .parseOne _ d | .generate _ d | .format _ d | .validate _ d => d.name?.isNone

/-- The operation, with a dialect in place of each one that is left out. -/
def filled (d : Dialect) : HostOperation → HostOperation
  | .transpile sql source target => .transpile sql (source.filled d) (target.filled d)
  | .parse sql c => .parse sql (c.filled d)
  | .parseOne sql c => .parseOne sql (c.filled d)
  | .generate tree c => .generate tree (c.filled d)
  | .format sql c => .format sql (c.filled d)
  | .validate sql c => .validate sql (c.filled d)

/-- The operation on texts that the operation comes to, if it leaves no dialect out and what it is
given can be written. -/
def operation? : HostOperation → Option Operation
  | .transpile sql source target =>
      source.name?.bind fun n => target.name?.map fun m => .transpile sql n m
  | .parse sql c => c.name?.map (.parse sql)
  | .parseOne sql c => c.name?.map (.parseOne sql)
  | .generate tree c => tree.payload?.bind fun payload => c.name?.map (.generate payload)
  | .format sql c => c.name?.map (.format sql)
  | .validate sql c => c.name?.map (.validate sql)

/-- What is given in full and can be written comes to an operation on texts. -/
theorem exists_operation
    {op : HostOperation}
    (hwritten : op.isWritten = true)
    (hgiven : op.leavesOut = false) :
    ∃ op', op.operation? = some op' := by
  cases op with
  | transpile sql source target =>
      cases hn : source.name? with
      | none => simp [leavesOut, hn] at hgiven
      | some n =>
          cases hm : target.name? with
          | none => simp [leavesOut, hm] at hgiven
          | some m => exact ⟨.transpile sql n m, by simp [operation?, hn, hm]⟩
  | generate tree c =>
      obtain ⟨payload, hpayload⟩ := Option.isSome_iff_exists.mp hwritten
      cases hn : c.name? with
      | none => simp [leavesOut, hn] at hgiven
      | some n => exact ⟨.generate payload n, by simp [operation?, hpayload, hn]⟩
  | parse sql c | parseOne sql c | format sql c | validate sql c =>
      cases hn : c.name? with
      | none => simp [leavesOut, hn] at hgiven
      | some n => exact ⟨_, by rw [operation?, hn]; rfl⟩

theorem operation?_of_unwritten
    {op : HostOperation}
    (h : op.isWritten = false) :
    op.operation? = none := by
  cases op with
  | generate tree c =>
      have hnone : tree.payload? = none := by simpa [isWritten] using h
      simp [operation?, hnone]
  | transpile sql source target | parse sql c | parseOne sql c | format sql c | validate sql c =>
      cases h

theorem leavesOut_filled
    (d : Dialect)
    (op : HostOperation) :
    (op.filled d).leavesOut = false := by
  have hname : ∀ c : DialectChoice, (c.filled d).name?.isNone = false := by
    intro c
    cases c <;> rfl
  cases op <;> simp [filled, leavesOut, hname]

theorem isWritten_filled
    (d : Dialect)
    (op : HostOperation) :
    (op.filled d).isWritten = op.isWritten := by
  cases op <;> rfl

end HostOperation

namespace Action

theorem chosenName_of_name?
    {c : DialectChoice} {n : String}
    (h : c.name? = some n) :
    (chosenName c : Action σ α String) = pure n := by
  cases c <;> cases h <;> rfl

/-- A dialect that is left out is the default dialect of the settings that are consulted. -/
theorem chosenName_of_none
    {c : DialectChoice}
    (h : c.name? = none) :
    (chosenName c : Action σ α String) =
      cachedSettings >>= fun s => chosenName (c.filled s.settings.defaultDialect) := by
  cases c with
  | unspecified =>
      simp only [chosenName, settings, bind_assoc, pure_bind]
      rfl
  | member d | name s =>
      cases h

theorem hostPayload_of_payload?
    {tree : Value} {payload : String}
    (h : tree.payload? = some payload) :
    (hostPayload tree : Action σ α String) = pure payload := by
  unfold Value.payload? at h
  unfold hostPayload
  cases htext : tree.text? with
  | some s =>
      rw [htext] at h
      cases h
      rfl
  | none =>
      rw [htext] at h
      cases hencode : Value.encode Json.ascii tree with
      | error fault =>
          rw [hencode] at h
          cases h
      | ok s =>
          rw [hencode] at h
          cases h
          rfl

/-- What follows an action and leaves the session alone plays no part in the session after it. -/
theorem run_bind_snd
    {a : Action σ α β} {f : β → Action σ α γ}
    (hf : ∀ b q, (run (f b) q).2 = q)
    (p : Session σ α) :
    (run (a >>= f) p).2 = (run a p).2 := by
  rw [run_bind]
  rcases run a p with ⟨_ | b, q⟩
  · rfl
  · exact hf b q

theorem run_map_snd
    (f : β → γ)
    (a : Action σ α β)
    (p : Session σ α) :
    (run (f <$> a) p).2 = (run a p).2 := by
  rw [run_map]

theorem run_decode_snd (text : String) (p : Session σ α) :
    (run (decode text) p).2 = p := by
  rw [decode, run_ofExcept]

end Action

namespace HostOperation

/-- What the operation on texts gives is decoded for the host; that leaves the session alone. -/
theorem run_action_snd
    {op : HostOperation} {op' : Operation}
    (h : op.operation? = some op')
    (p : Session σ α) :
    (Action.run op.action p).2 = (Action.run op'.action p).2 := by
  cases op with
  | transpile sql source target =>
      obtain ⟨n, hn, hrest⟩ := Option.bind_eq_some_iff.mp h
      obtain ⟨m, hm, rfl⟩ := Option.map_eq_some_iff.mp hrest
      rw [action, Operation.action, Action.run_map_snd, Action.run_map_snd, Action.hostTranspile,
        Action.chosenName_of_name? hn, Action.chosenName_of_name? hm, pure_bind, pure_bind]
  | generate tree c =>
      obtain ⟨payload, hpayload, hrest⟩ := Option.bind_eq_some_iff.mp h
      obtain ⟨n, hn, rfl⟩ := Option.map_eq_some_iff.mp hrest
      rw [action, Operation.action, Action.run_map_snd, Action.run_map_snd, Action.hostGenerate,
        Action.hostPayload_of_payload? hpayload, Action.chosenName_of_name? hn, pure_bind, pure_bind]
  | format sql c =>
      obtain ⟨n, hn, rfl⟩ := Option.map_eq_some_iff.mp h
      rw [action, Operation.action, Action.run_map_snd, Action.run_map_snd, Action.hostFormat,
        Action.chosenName_of_name? hn, pure_bind]
  | parse sql c =>
      obtain ⟨n, hn, rfl⟩ := Option.map_eq_some_iff.mp h
      rw [action, Operation.action, Action.run_map_snd, Action.run_map_snd, Action.hostParse,
        Action.chosenName_of_name? hn, pure_bind]
      exact Action.run_bind_snd Action.run_decode_snd p
  | parseOne sql c =>
      obtain ⟨n, hn, rfl⟩ := Option.map_eq_some_iff.mp h
      rw [action, Operation.action, Action.run_map_snd, Action.run_map_snd, Action.hostParseOne,
        Action.chosenName_of_name? hn, pure_bind]
      exact Action.run_bind_snd Action.run_decode_snd p
  | validate sql c =>
      obtain ⟨n, hn, rfl⟩ := Option.map_eq_some_iff.mp h
      rw [action, Operation.action, Action.run_map_snd, Action.run_map_snd, Action.hostValidate,
        Action.chosenName_of_name? hn, pure_bind]
      exact Action.run_bind_snd (fun text q => congrArg Prod.snd (Action.run_ofExcept _ q)) p

/-- A tree that cannot be written fails the operation before anything else happens. -/
theorem run_of_unwritten
    {op : HostOperation}
    (h : op.isWritten = false)
    (p : Session σ α) :
    ∃ f, Action.run op.action p = (.error f, p) := by
  cases op with
  | generate tree c =>
      have hnone : tree.payload? = none := by simpa [isWritten] using h
      obtain ⟨f, hf⟩ : ∃ f, Action.run (Action.hostPayload tree) p = (.error f, p) := by
        unfold Value.payload? at hnone
        unfold Action.hostPayload
        cases htext : tree.text? with
        | some s =>
            rw [htext] at hnone
            cases hnone
        | none =>
            rw [htext] at hnone
            cases hencode : Value.encode Json.ascii tree with
            | ok s =>
                rw [hencode] at hnone
                cases hnone
            | error fault =>
                exact ⟨fault.failure, rfl⟩
      exact ⟨f, by rw [action, Action.run_map, Action.hostGenerate, Action.run_bind_of_error hf]; rfl⟩
  | transpile sql source target | parse sql c | parseOne sql c | format sql c | validate sql c =>
      cases h

/-- An operation that leaves dialects out consults the settings and is then the operation in their
default dialect. -/
theorem action_of_leavesOut
    {op : HostOperation}
    (hwritten : op.isWritten = true)
    (hleaves : op.leavesOut = true) :
    (op.action : Action σ α HostAnswer) =
      Action.cachedSettings >>= fun c => (op.filled c.settings.defaultDialect).action := by
  have hgiven : ∀ {c : DialectChoice} {n : String} (d : Dialect), c.name? = some n →
      c.filled d = c := by
    intro c n d hn
    cases c <;> cases hn <;> rfl
  cases op with
  | transpile sql source target =>
      simp only [action, filled, Action.hostTranspile, ← map_bind]
      refine congrArg (Functor.map HostAnswer.texts) ?_
      cases hn : source.name? with
      | some n =>
          cases hm : target.name? with
          | some m =>
              simp [leavesOut, hn, hm] at hleaves
          | none =>
              simp only [hgiven _ hn, Action.chosenName_of_name? hn, pure_bind,
                Action.chosenName_of_none hm, bind_assoc]
      | none =>
          cases hm : target.name? with
          | some m =>
              simp only [hgiven _ hm, Action.chosenName_of_name? hm, pure_bind,
                Action.chosenName_of_none hn, bind_assoc]
          | none =>
              -- the settings are consulted once for each of them
              cases source <;> cases hn
              cases target <;> cases hm
              simp only [Action.chosenName_of_none (c := .unspecified) rfl, DialectChoice.filled,
                Action.chosenName_of_name? (c := .member _) rfl, pure_bind, bind_assoc]
              exact Action.cachedSettings_bind_twice fun c c' =>
                Action.transpile sql c.settings.defaultDialect.name c'.settings.defaultDialect.name
  | generate tree c =>
      obtain ⟨payload, hpayload⟩ := Option.isSome_iff_exists.mp hwritten
      have hnone : c.name? = none := by simpa [leavesOut] using hleaves
      simp only [action, filled, Action.hostGenerate, ← map_bind,
        Action.hostPayload_of_payload? hpayload, pure_bind, Action.chosenName_of_none hnone, bind_assoc]
  | parse sql c | parseOne sql c | format sql c | validate sql c =>
      have hnone : c.name? = none := by simpa [leavesOut] using hleaves
      simp only [action, filled, Action.hostParse, Action.hostParseOne, Action.hostFormat,
        Action.hostValidate, ← map_bind, Action.chosenName_of_none hnone, bind_assoc]

end HostOperation
end SqlDialects
