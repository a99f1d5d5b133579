import SqlDialects.Proofs.Library.Checking

/-!
# Carrying statements over agrees with parsing and generating

The engine of a library has two ways from a text to the texts of its statements.  One leaves empty
statements out and generates the trees one by one; the other keeps a place for every statement.

**Input.**  A library whose answers do not depend on what has been logged (`Library.IgnoresLog`), and
a scene from which a text is carried over.

**Relation.**  Two runs are compared that start from one state and may have logged different records:
leaving a statement out is logged, keeping its place is not.  `Matched` says how two such runs end.

**Specification.**  `Placed` says where the generated texts stand among the texts of all statements.

**Results.**
* `run_renderAll_matched`: rendering all nodes ends as generating those that are not empty.
* `transpile_agrees_parse`: both ways succeed or fail alike, with the same failure, and leave the
  library in the same state.
-/

namespace SqlDialects

/-! ## Tasks that ignore the log -/

namespace Task

variable {σ β γ : Type}

/-- What the task gives, and the state that it leaves, depend on the state alone. -/
def IgnoresLog (t : Task σ β) : Prop :=
  ∀ s s' : Scene σ, s.state = s'.state →
    (run t s).1 = (run t s').1 ∧ (run t s).2.state = (run t s').2.state

theorem ignoresLog_pure (b : β) : IgnoresLog (pure b : Task σ β) :=
  fun _ _ h => ⟨rfl, h⟩

theorem ignoresLog_throw (f : Failure) : IgnoresLog (throw f : Task σ β) :=
  fun _ _ h => ⟨rfl, h⟩

theorem ignoresLog_ofExcept (e : Except Failure β) : IgnoresLog (ofExcept e : Task σ β) :=
  fun _ _ h => ⟨rfl, h⟩

theorem ignoresLog_log (r : Log.Record) : IgnoresLog (log r : Task σ Unit) :=
  fun _ _ h => ⟨rfl, h⟩

theorem ignoresLog_onState (f : σ → β × σ) : IgnoresLog (onState f) := by
  intro s s' h
  rw [run_onState, run_onState, h]
  exact ⟨rfl, rfl⟩

theorem IgnoresLog.outcome
    {t : Task σ β}
    (h : IgnoresLog t) :
    IgnoresLog (outcome t) := by
  intro s s' hs
  rw [run_outcome, run_outcome]
  exact ⟨congrArg Except.ok (h s s' hs).1, (h s s' hs).2⟩

theorem run_map (f : β → γ) (t : Task σ β) (s : Scene σ) :
    run (f <$> t) s = ((run t s).1.map f, (run t s).2) := by
  rw [map_eq_pure_bind, run_bind]
  rcases run t s with ⟨_ | _, s'⟩ <;> rfl

theorem IgnoresLog.bind
    {t : Task σ β} {f : β → Task σ γ}
    (ht : IgnoresLog t)
    (hf : ∀ b, IgnoresLog (f b)) :
    IgnoresLog (t >>= f) := by
  intro s s' hs
  obtain ⟨hvalue, hstate⟩ := ht s s' hs
  rw [run_bind, run_bind]
  generalize run t s = r at hvalue hstate ⊢
  generalize run t s' = r' at hvalue hstate ⊢
  obtain ⟨value, q⟩ := r
  obtain ⟨value', q'⟩ := r'
  obtain rfl : value = value' := hvalue
  cases value with
  | error e =>
      exact ⟨rfl, hstate⟩
  | ok b =>
      exact hf b q q' hstate

end Task

namespace Engine

variable {σ α : Type}

/-- Parses a text and generates its trees in order, up to the first failure. -/
def parseThenGenerate (e : Engine σ α) (sql : String) (source target : Dialect) :
    Task σ (List String) := do
  let trees ← e.parse sql source
  trees.mapM fun t => e.generate t target false

end Engine

namespace Library

variable {τ ε β : Type}

/-- The library answers requests alike, whatever has been logged before. -/
structure IgnoresLog (lib : Library τ ε) : Prop where
  hasDialect : ∀ name, (lib.hasDialect name).IgnoresLog
  render : ∀ e dialect pretty level, (lib.render e dialect pretty level).IgnoresLog

theorem ignoresLog_reporting
    {t : Task τ β}
    (h : t.IgnoresLog)
    (classes : List ErrorClass)
    (rendering : Bool) :
    (reporting classes rendering t).IgnoresLog := by
  refine h.outcome.bind fun outcome => ?_
  cases outcome with
  | ok b =>
      exact Task.ignoresLog_pure b
  | error f =>
      change (if f.isAnyOf classes then throw ((classify rendering f).causedBy f)
        else throw f : Task τ β).IgnoresLog
      split <;> exact Task.ignoresLog_throw _

namespace IgnoresLog

variable {lib : Library τ ε}

theorem chooseFrom
    (h : lib.IgnoresLog)
    (d : Dialect)
    (first : String)
    (names : List String) :
    (lib.chooseFrom d first names).IgnoresLog := by
  induction names with
  | nil =>
      exact (Task.ignoresLog_log _).bind fun _ => Task.ignoresLog_pure _
  | cons name names ih =>
      rw [Library.chooseFrom]
      split
      · exact Task.ignoresLog_pure _
      · refine (h.hasDialect name).bind fun has => ?_
        split
        · split
          · exact (Task.ignoresLog_log _).bind fun _ => Task.ignoresLog_pure _
          · exact Task.ignoresLog_pure _
        · exact ih

theorem choose
    (h : lib.IgnoresLog)
    (d : Dialect) :
    (lib.choose d).IgnoresLog :=
  h.chooseFrom d _ _

theorem renderNode
    (h : lib.IgnoresLog)
    (level : UnsupportedLevel)
    (n : Node ε)
    (d : Dialect)
    (pretty : Bool) :
    (lib.renderNode level n d pretty).IgnoresLog := by
  cases n with
  | other v =>
      exact Task.ignoresLog_throw _
  | tree e =>
      exact ignoresLog_reporting ((h.choose d).bind fun _ => h.render e _ pretty level) _ _

end IgnoresLog

/-! ## Places -/

/-- The number of statements before a position that are not empty. -/
def rank (nodes : List (Node ε)) (i : Nat) : Nat :=
  ((nodes.take i).filter fun n => !n.isEmpty).length

/-- Where generated texts stand among the texts of all statements: an empty statement has the empty
text in its place, and the others have the generated texts, in order. -/
structure Placed (nodes : List (Node ε)) (generated texts : List String) : Prop where
  length : texts.length = nodes.length
  empty : ∀ (i : Nat) (n : Node ε), nodes[i]? = some n → n.isEmpty = true → texts[i]? = some ""
  others : ∀ (i : Nat) (n : Node ε), nodes[i]? = some n → n.isEmpty = false →
    texts[i]? = generated[rank nodes i]?
  rest : ((nodes.zip texts).filter fun p => !p.1.isEmpty).map (·.2) = generated

theorem placed_nil : Placed ([] : List (Node ε)) [] [] where
  length := rfl
  empty := by simp
  others := by simp
  rest := rfl

theorem Placed.cons_empty
    {nodes : List (Node ε)} {generated texts : List String} {n : Node ε}
    (h : Placed nodes generated texts)
    (hn : n.isEmpty = true) :
    Placed (n :: nodes) generated ("" :: texts) where
  length := congrArg Nat.succ h.length
  empty := by
    intro i m hi hm
    cases i with
    | zero => rfl
    | succ i => exact h.empty i m hi hm
  others := by
    intro i m hi hm
    cases i with
    | zero =>
        obtain rfl : n = m := Option.some.inj hi
        rw [hn] at hm
        cases hm
    | succ i =>
        have hrank : rank (n :: nodes) (i + 1) = rank nodes i := by
          simp [rank, hn]
        rw [hrank]
        exact h.others i m hi hm
  rest := by
    simpa [hn] using h.rest

theorem Placed.cons_other
    {nodes : List (Node ε)} {generated texts : List String} {n : Node ε}
    (h : Placed nodes generated texts)
    (hn : n.isEmpty = false)
    (text : String) :
    Placed (n :: nodes) (text :: generated) (text :: texts) where
  length := congrArg Nat.succ h.length
  empty := by
    intro i m hi hm
    cases i with
    | zero =>
        obtain rfl : n = m := Option.some.inj hi
        rw [hn] at hm
        cases hm
    | succ i => exact h.empty i m hi hm
  others := by
    intro i m hi hm
    cases i with
    | zero => rfl
    | succ i =>
        have hrank : rank (n :: nodes) (i + 1) = rank nodes i + 1 := by
          simp [rank, hn]
        rw [hrank]
        exact h.others i m hi hm
  rest := by
    simpa [hn] using h.rest

/-! ## Two runs -/

/-- How carrying statements over ends beside generating the trees among them. -/
inductive Matched (nodes : List (Node ε)) :
    Except Failure (List String) → Except Failure (List String) → Prop
  | texts {texts generated : List String} :
      Placed nodes generated texts → Matched nodes (.ok texts) (.ok generated)
  | failure (f : Failure) : Matched nodes (.error f) (.error f)

theorem Matched.cons_empty
    {nodes : List (Node ε)} {all each : Except Failure (List String)} {n : Node ε}
    (h : Matched nodes all each)
    (hn : n.isEmpty = true) :
    Matched (n :: nodes) (all.map ("" :: ·)) each := by
  cases h with
  | texts h =>
      exact .texts (h.cons_empty hn)
  | failure f =>
      exact .failure f

theorem Matched.cons_other
    {nodes : List (Node ε)} {all each : Except Failure (List String)} {n : Node ε}
    (h : Matched nodes all each)
    (hn : n.isEmpty = false)
    (text : String) :
    Matched (n :: nodes) (all.map (text :: ·)) (each.map (text :: ·)) := by
  cases h with
  | texts h =>
      exact .texts (h.cons_other hn text)
  | failure f =>
      exact .failure f

theorem Matched.exists_ok_iff
    {nodes : List (Node ε)} {all each : Except Failure (List String)}
    (h : Matched nodes all each) :
    (∃ texts, all = .ok texts) ↔ ∃ generated, each = .ok generated := by
  cases h <;> simp

theorem Matched.error_iff
    {nodes : List (Node ε)} {all each : Except Failure (List String)}
    (h : Matched nodes all each)
    (f : Failure) :
    all = .error f ↔ each = .error f := by
  cases h <;> simp

theorem Matched.placed
    {nodes : List (Node ε)} {each : Except Failure (List String)} {texts : List String}
    (h : Matched nodes (.ok texts) each) :
    ∃ generated, each = .ok generated ∧ Placed nodes generated texts := by
  cases h with
  | texts h =>
      exact ⟨_, rfl, h⟩

section Rendering

variable {lib : Library τ ε}

theorem renderAll_cons_of_isEmpty
    {n : Node ε}
    (hn : n.isEmpty = true)
    (level : UnsupportedLevel)
    (d : Dialect)
    (ns : List (Node ε)) :
    renderAll lib level d (n :: ns) = ("" :: ·) <$> renderAll lib level d ns := by
  simp only [renderAll, hn, if_true, pure_bind, bind_pure_comp]

theorem renderAll_cons_of_not_isEmpty
    {n : Node ε}
    (hn : n.isEmpty = false)
    (level : UnsupportedLevel)
    (d : Dialect)
    (ns : List (Node ε)) :
    renderAll lib level d (n :: ns) =
      renderNode lib level n d false >>= fun text => (text :: ·) <$> renderAll lib level d ns := by
  simp only [renderAll, hn, Bool.false_eq_true, if_false, bind_pure_comp]

/-- Rendering all nodes ends as generating those that are not empty does from any scene of the same
state, and leaves the same state. -/
theorem run_renderAll_matched
    (hlib : lib.IgnoresLog)
    (level : UnsupportedLevel)
    (d : Dialect)
    (nodes : List (Node ε))
    {s s' : Scene τ}
    (hstate : s.state = s'.state) :
    let all := Task.run (renderAll lib level d nodes) s
    let each := Task.run ((nodes.filter fun n => !n.isEmpty).mapM fun n =>
      renderNode lib level n d false) s'
    Matched nodes all.1 each.1 ∧ all.2.state = each.2.state := by
  induction nodes generalizing s s' with
  | nil =>
      exact ⟨.texts placed_nil, hstate⟩
  | cons n ns ih =>
      cases hn : n.isEmpty with
      | true =>
          obtain ⟨hmatched, hend⟩ := ih hstate
          rw [List.filter_cons_of_neg (by simp [hn]), renderAll_cons_of_isEmpty hn, Task.run_map]
          exact ⟨hmatched.cons_empty hn, hend⟩
      | false =>
          obtain ⟨hvalue, hnext⟩ := hlib.renderNode level n d false s s' hstate
          rw [List.filter_cons_of_pos (by simp [hn]), List.mapM_cons,
            renderAll_cons_of_not_isEmpty hn, Task.run_bind, Task.run_bind]
          generalize Task.run (renderNode lib level n d false) s = r at hvalue hnext ⊢
          generalize Task.run (renderNode lib level n d false) s' = r' at hvalue hnext ⊢
          obtain ⟨value, q⟩ := r
          obtain ⟨value', q'⟩ := r'
          obtain rfl : value = value' := hvalue
          cases value with
          | error f =>
              exact ⟨.failure f, hnext⟩
          | ok text =>
              obtain ⟨hmatched, hend⟩ := ih hnext
              simp only [bind_pure_comp, Task.run_map]
              exact ⟨hmatched.cons_other hn text, hend⟩

end Rendering

/-! ## Both ways -/

/-- How carrying the statements of a text over agrees with parsing the text and generating its
trees. -/
structure AgreesWithParsing (lib : Library τ ε) (level : UnsupportedLevel) (sql : String)
    (source target : Dialect) (s : Scene τ) : Prop where
  /-- It succeeds exactly when the text is parsed and each tree is generated, in order. -/
  succeeds : (∃ texts, (Task.run ((lib.engine level).transpile sql source target) s).1 = .ok texts) ↔
    ∃ trees generated s', Task.run ((lib.engine level).parse sql source) s = (.ok trees, s') ∧
      (Task.run (trees.mapM fun t => (lib.engine level).generate t target false) s').1 =
        .ok generated
  /-- There is a text for each statement of the library's answer; those of empty ones are empty, and
  the others are what is generated, in order. -/
  placed : ∀ texts, (Task.run ((lib.engine level).transpile sql source target) s).1 = .ok texts →
    ∃ nodes generated, response lib sql source s = .ok nodes ∧
      (Task.run ((lib.engine level).parseThenGenerate sql source target) s).1 = .ok generated ∧
      Placed nodes generated texts
  /-- It fails with the failure that comes first on the other way. -/
  fails : ∀ f, (Task.run ((lib.engine level).transpile sql source target) s).1 = .error f ↔
    (Task.run ((lib.engine level).parseThenGenerate sql source target) s).1 = .error f
  /-- The library is left in the same state. -/
  state : (Task.run ((lib.engine level).transpile sql source target) s).2.state =
    (Task.run ((lib.engine level).parseThenGenerate sql source target) s).2.state

/--
With a library whose answers do not depend on what has been logged, carrying the statements of a
text over agrees with parsing the text and generating its trees.
-/
theorem transpile_agrees_parse
    (lib : Library τ ε)
    (hlib : lib.IgnoresLog)
    (level : UnsupportedLevel)
    (sql : String)
    (source target : Dialect)
    (s : Scene τ) :
    AgreesWithParsing lib level sql source target s := by
  let generateEach := fun trees : List (Node ε) =>
    trees.mapM fun t => (lib.engine level).generate t target false
  have htranspile : Task.run ((lib.engine level).transpile sql source target) s =
      Task.run (statements lib sql source >>= renderAll lib level target) s := rfl
  have hparse : Task.run ((lib.engine level).parse sql source) s =
      Task.run (statements lib sql source >>= skipEmpty) s := rfl
  rw [Task.run_bind, run_statements] at htranspile hparse
  cases hresponse : response lib sql source s with
  | error f =>
      simp only [hresponse] at htranspile hparse
      have hsequence : Task.run ((lib.engine level).parseThenGenerate sql source target) s = _ :=
        Task.run_bind_of_error hparse generateEach
      refine ⟨?_, ?_, ?_, ?_⟩
      · rw [htranspile, hparse]
        simp
      · intro texts h
        rw [htranspile] at h
        cases h
      · intro g
        rw [htranspile, hsequence]
      · rw [htranspile, hsequence]
  | ok nodes =>
      simp only [hresponse] at htranspile hparse
      obtain ⟨records, hskip⟩ := run_skipEmpty nodes (Task.run (parseStep lib sql source) s).2
      rw [hskip] at hparse
      have hsequence : Task.run ((lib.engine level).parseThenGenerate sql source target) s = _ :=
        Task.run_bind_of_ok hparse generateEach
      -- the second run has the records of the statements that were left out
      have hstate : (Task.run (parseStep lib sql source) s).2.state =
          (⟨(Task.run (parseStep lib sql source) s).2.state, records⟩ : Scene τ).state := rfl
      obtain ⟨hmatched, hend⟩ := run_renderAll_matched hlib level target nodes hstate
      rw [← htranspile] at hmatched hend
      refine ⟨?_, ?_, ?_, ?_⟩
      · rw [hmatched.exists_ok_iff]
        constructor
        · rintro ⟨generated, hgenerated⟩
          exact ⟨_, generated, _, hparse, hgenerated⟩
        · rintro ⟨trees, generated, s', htrees, hgenerated⟩
          cases hparse.symm.trans htrees
          exact ⟨generated, hgenerated⟩
      · intro texts htexts
        rw [htexts] at hmatched
        obtain ⟨generated, hgenerated, hplaced⟩ := hmatched.placed
        exact ⟨nodes, generated, hresponse, hsequence ▸ hgenerated, hplaced⟩
      · intro f
        rw [hsequence]
        exact hmatched.error_iff f
      · rw [hsequence]
        exact hend

/-- A scripted library answers as its script says. -/
theorem ignoresLog_scripted
    (version : String)
    (available : Option (List String)) :
    (ScriptedLibrary.library version available).IgnoresLog where
  hasDialect := fun _ => (Task.ignoresLog_onState _).bind fun _ => Task.ignoresLog_pure _
  render := by
    intro tag dialect pretty level
    have hanswer : ∀ m c fallback, (ScriptedLibrary.answer m c fallback).IgnoresLog :=
      fun m c fallback => (Task.ignoresLog_onState _).bind fun _ =>
        (Task.ignoresLog_onState _).bind Task.ignoresLog_ofExcept
    exact (hanswer _ _ _).bind fun v => Task.ignoresLog_pure v.display

theorem transpile_agrees_parse_missingKey :
    (ScriptedLibrary.library "1.0" none).IgnoresLog ∧
    AgreesWithParsing (ScriptedLibrary.library "1.0" none) .refuse "a; ; b" .generic .mysql
      missingKey.scene := by
  have hlib := ignoresLog_scripted "1.0" none
  exact ⟨hlib, transpile_agrees_parse (ScriptedLibrary.library "1.0" none) hlib .refuse "a; ; b"
    .generic .mysql missingKey.scene⟩

/-- Where a library renders a statement that is not empty as the empty text. -/
def blankRendering : Scene ScriptedLibrary.State :=
  ⟨⟨[(.parse, [.ok (.list [ScriptedLibrary.treeValue "s"])]), (.render "s", [.ok (.text "")])], []⟩,
    []⟩

/-- An empty text does not always stand for an empty statement. -/
theorem blank_of_statement :
    ∃ nodes texts,
      response (ScriptedLibrary.library "1.0" none) "x" .mysql blankRendering = .ok nodes ∧
      (Task.run (((ScriptedLibrary.library "1.0" none).engine .refuse).transpile "x" .mysql .postgres)
        blankRendering).1 = .ok texts ∧
      ¬ ∀ i : Nat, texts[i]? = some "" ↔ ∃ n, nodes[i]? = some n ∧ n.isEmpty = true := by
  refine ⟨[.tree "s"], [""], rfl, rfl, fun h => ?_⟩
  obtain ⟨n, hn, hempty⟩ := (h 0).mp rfl
  obtain rfl : .tree "s" = n := Option.some.inj hn
  cases hempty

end Library
end SqlDialects
