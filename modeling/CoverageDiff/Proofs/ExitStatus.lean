import CoverageDiff.CommandLine.Run
import CoverageDiff.Proofs.FileTree

/-!
# CoverageDiff.Proofs.ExitStatus

What the exit code of a comparison says.

1. A comparison takes settings, a filter, two reports, a text and its delivery;
   it comes to its end (`Succeeds`) or fails at one of these (`Fails`), and
   what `runDiff` leaves behind is determined by that (`code_of_succeeds`,
   `runDiff_of_fails`).
2. A failure that is reported ends with a code of its own, neither 0 nor 1.  A
   failure that escapes ends with 1, the code of reports that differ
   (`code_failed`).

So the code tells the truth exactly if no failure escapes
(`exitCode_tells_truth_iff`).
-/

namespace CoverageDiff

/-! ## Results with messages -/

theorem Logged.snd_andThen {ε α β : Type} (x : Logged ε α) (next : α → Logged ε β) :
    (x.andThen next).2 = x.2.bind fun a => (next a).2 := by
  obtain ⟨log, e | a⟩ := x <;> rfl

theorem Logged.snd_mapError {ε δ α : Type} (f : ε → δ) (x : Logged ε α) :
    (Logged.mapError f x).2 = x.2.mapError f := rfl

namespace CommandLine

open Files

variable {w : Workspace} {r : DiffRequest} {g : Globals} {o : Outcome} {e : Failure}

/-! ## The stages of a comparison -/

/-- Settings, filter and both reports are there. -/
structure Loads (w : Workspace) (r : DiffRequest) (s : Settings) (f : ClassFilter)
    (a b : Project) : Prop where
  settings : (Settings.load w here).2 = .ok s
  filter : filterOf? s r = .ok f
  baseline : (loadSide w [r.baseline] (some f)).2 = .ok a
  current : (loadSide w [r.current] (some f)).2 = .ok b

/-- What a comparison loads is determined by the files and the request. -/
theorem Loads.unique {s s' : Settings} {f f' : ClassFilter} {a a' b b' : Project}
    (h : Loads w r s f a b) (h' : Loads w r s' f' a' b') : s = s' ∧ f = f' ∧ a = a' ∧ b = b' := by
  have hs : s = s' := Except.ok.inj (h.settings.symm.trans h'.settings)
  subst hs
  have hf : f = f' := Except.ok.inj (h.filter.symm.trans h'.filter)
  subst hf
  have ha : a = a' := Except.ok.inj (h.baseline.symm.trans h'.baseline)
  have hb : b = b' := Except.ok.inj (h.current.symm.trans h'.current)
  exact ⟨rfl, rfl, ha, hb⟩

/-- The text of the comparison of two projects. -/
def textOf (s : Settings) (r : DiffRequest) (a b : Project) : Except RenderError String :=
  (Report.between a b).renderAs (formatOf s r)
    ⟨SidePlan.side ⟨[r.baseline], r.baselineMode⟩ a, SidePlan.side ⟨[r.current], r.currentMode⟩ b⟩
    (r.color && !r.noColor)

/-- A text is shown or written, whichever is asked for; no text is neither. -/
structure Delivers (w : Workspace) (output : Option Path) (text : String) (o : Outcome) : Prop where
  empty : text = "" → o.delivery = .nothing ∧ o.workspace = w
  shown : text ≠ "" → (∀ p, output = some p → isScreen p = true) →
    o.delivery = .shown (.result text) ∧ o.workspace = w
  saved : ∀ p, text ≠ "" → output = some p → isScreen p = false →
    o.delivery = .saved p (.result text) ∧ o.workspace.read p = .ok (Page.result text).inFile

/-- A comparison comes to its end and finds the reports equivalent, or different. -/
inductive Succeeds (w : Workspace) (r : DiffRequest) (equivalent : Bool) (o : Outcome) : Prop
  | intro {s : Settings} {f : ClassFilter} {a b : Project} {text : String}
      (loads : Loads w r s f a b) (verdict : (Report.between a b).isEmpty = equivalent)
      (renders : textOf s r a b = .ok text) (delivers : Delivers w r.output text o) :
      Succeeds w r equivalent o

/-- A comparison fails at one of its stages. -/
inductive Fails (w : Workspace) (r : DiffRequest) : Failure → Prop
  | settings {e : SettingsError} (he : (Settings.load w here).2 = .error e) :
      Fails w r (.settings e)
  | filter {s : Settings} {e : FilterError} (hs : (Settings.load w here).2 = .ok s)
      (he : filterOf? s r = .error e) : Fails w r (.filter e)
  | baseline {s : Settings} {f : ClassFilter} {e : LoadError}
      (hs : (Settings.load w here).2 = .ok s) (hf : filterOf? s r = .ok f)
      (he : (loadSide w [r.baseline] (some f)).2 = .error e) : Fails w r (.load e)
  | current {s : Settings} {f : ClassFilter} {a : Project} {e : LoadError}
      (hs : (Settings.load w here).2 = .ok s) (hf : filterOf? s r = .ok f)
      (ha : (loadSide w [r.baseline] (some f)).2 = .ok a)
      (he : (loadSide w [r.current] (some f)).2 = .error e) : Fails w r (.load e)
  | render {s : Settings} {f : ClassFilter} {a b : Project} {e : RenderError}
      (loads : Loads w r s f a b) (he : textOf s r a b = .error e) : Fails w r (.render e)
  | write {s : Settings} {f : ClassFilter} {a b : Project} {text : String} {e : Failure}
      (loads : Loads w r s f a b) (renders : textOf s r a b = .ok text)
      (he : deliverText w text r.output = .error e) : Fails w r e

/-! ## Rendering -/

theorem snd_renderDiff (w : Workspace) (r : DiffRequest) :
    (renderDiff w r).2 =
      ((Settings.load w here).2.mapError .settings).bind fun s =>
        ((filterOf? s r).mapError .filter).bind fun f =>
          ((loadSide w [r.baseline] (some f)).2.mapError .load).bind fun a =>
            ((loadSide w [r.current] (some f)).2.mapError .load).bind fun b =>
              ((textOf s r a b).mapError .render).map fun text => ⟨Report.between a b, text⟩ := by
  rw [renderDiff, Logged.snd_andThen, Logged.snd_mapError]
  congr 1
  funext s
  rw [Logged.snd_andThen]
  congr 1
  funext f
  rw [Logged.snd_andThen, Logged.snd_mapError, compareFiles, Logged.snd_andThen]
  cases (loadSide w [r.baseline] (some f)).2 with
  | error e => rfl
  | ok a =>
      simp only [Except.bind, Except.mapError, Logged.snd_andThen]
      cases (loadSide w [r.current] (some f)).2 with
      | error e => rfl
      | ok b => rfl

theorem Loads.snd_renderDiff {s : Settings} {f : ClassFilter} {a b : Project}
    (h : Loads w r s f a b) :
    (renderDiff w r).2 =
      ((textOf s r a b).mapError .render).map fun text => ⟨Report.between a b, text⟩ := by
  rw [CommandLine.snd_renderDiff, h.settings]
  simp [Except.mapError, Except.bind, h.filter, h.baseline, h.current]

/-- A comparison is rendered, or fails before its delivery. -/
theorem renderDiff_cases (w : Workspace) (r : DiffRequest) :
    (∃ s f a b text, Loads w r s f a b ∧ textOf s r a b = .ok text) ∨
      ∃ e, Fails w r e ∧ (renderDiff w r).2 = .error e := by
  cases hs : (Settings.load w here).2 with
  | error e =>
      have hrender : (renderDiff w r).2 = .error (.settings e) := by
        simp [snd_renderDiff, hs, Except.mapError, Except.bind]
      exact .inr ⟨_, .settings hs, hrender⟩
  | ok s =>
    cases hf : filterOf? s r with
    | error e =>
        have hrender : (renderDiff w r).2 = .error (.filter e) := by
          simp [snd_renderDiff, hs, hf, Except.mapError, Except.bind]
        exact .inr ⟨_, .filter hs hf, hrender⟩
    | ok f =>
      cases ha : (loadSide w [r.baseline] (some f)).2 with
      | error e =>
          have hrender : (renderDiff w r).2 = .error (.load e) := by
            simp [snd_renderDiff, hs, hf, ha, Except.mapError, Except.bind]
          exact .inr ⟨_, .baseline hs hf ha, hrender⟩
      | ok a =>
        cases hb : (loadSide w [r.current] (some f)).2 with
        | error e =>
            have hrender : (renderDiff w r).2 = .error (.load e) := by
              simp [snd_renderDiff, hs, hf, ha, hb, Except.mapError, Except.bind]
            exact .inr ⟨_, .current hs hf ha hb, hrender⟩
        | ok b =>
          have hloads : Loads w r s f a b := ⟨hs, hf, ha, hb⟩
          cases ht : textOf s r a b with
          | error e =>
              have hrender : (renderDiff w r).2 = .error (.render e) := by
                simp [hloads.snd_renderDiff, ht, Except.mapError, Except.map]
              exact .inr ⟨_, .render hloads ht, hrender⟩
          | ok text => exact .inl ⟨s, f, a, b, text, hloads, ht⟩

/-- A failure is one of rendering or one of delivery. -/
theorem Fails.render_or_deliver (h : Fails w r e) :
    (renderDiff w r).2 = .error e ∨
      ∃ s f a b text, Loads w r s f a b ∧ textOf s r a b = .ok text ∧
        deliverText w text r.output = .error e := by
  cases h with
  | settings he => left; simp [snd_renderDiff, he, Except.mapError, Except.bind]
  | filter hs he => left; simp [snd_renderDiff, hs, he, Except.mapError, Except.bind]
  | baseline hs hf he => left; simp [snd_renderDiff, hs, hf, he, Except.mapError, Except.bind]
  | current hs hf ha he => left; simp [snd_renderDiff, hs, hf, ha, he, Except.mapError, Except.bind]
  | render loads he => left; simp [loads.snd_renderDiff, he, Except.mapError, Except.map]
  | write loads renders he => exact .inr ⟨_, _, _, _, _, loads, renders, he⟩

/-! ## Delivery -/

theorem deliver_of_isScreen {page : Page} {output : Option Path}
    (h : ∀ p, output = some p → isScreen p = true) :
    deliver w page output = .ok (w, .shown page) := by
  cases output with
  | none => rfl
  | some p => simp [deliver, h p rfl]

theorem deliver_of_not_isScreen {page : Page} {p : Path} (h : isScreen p = false) :
    deliver w page (some p) =
      ((w.write p page.inFile).mapError (Failure.write p)).map fun w' => (w', .saved p page) := by
  simp only [deliver, h, Bool.false_eq_true, if_false]
  cases w.write p page.inFile <;> rfl

theorem deliverText_of_ne {text : String} (h : text ≠ "") (output : Option Path) :
    deliverText w text output = deliver w (.result text) output := by
  simp [deliverText, h]

/-- What `deliverText` does is a delivery, and can be read back. -/
theorem delivers_of_deliverText {output : Option Path} {text : String}
    (h : deliverText w text output = .ok (o.workspace, o.delivery)) : Delivers w output text o where
  empty := by
    intro htext
    have hnothing : deliverText w "" output = .ok (w, .nothing) := rfl
    rw [htext, hnothing, Except.ok.injEq, Prod.mk.injEq] at h
    exact ⟨h.2.symm, h.1.symm⟩
  shown := by
    intro htext hscreen
    rw [deliverText_of_ne htext, deliver_of_isScreen hscreen, Except.ok.injEq, Prod.mk.injEq] at h
    exact ⟨h.2.symm, h.1.symm⟩
  saved := by
    intro p htext hp hscreen
    rw [deliverText_of_ne htext, hp, deliver_of_not_isScreen hscreen] at h
    cases hwrite : w.write p (Page.result text).inFile with
    | error e => simp [hwrite, Except.mapError, Except.map] at h
    | ok w' =>
        simp only [hwrite, Except.mapError, Except.map, Except.ok.injEq, Prod.mk.injEq] at h
        rw [← h.1, ← h.2]
        exact ⟨rfl, Workspace.read_write hwrite⟩

/-- Only a text that is to be written to a file can fail to be delivered. -/
theorem deliverText_eq_error {output : Option Path} {text : String}
    (h : deliverText w text output = .error e) :
    ∃ p pe, text ≠ "" ∧ output = some p ∧ isScreen p = false ∧ e = .write p pe := by
  by_cases htext : text = ""
  · simp [htext, deliverText] at h
  · rw [deliverText_of_ne htext] at h
    by_cases hscreen : ∀ p, output = some p → isScreen p = true
    · simp [deliver_of_isScreen hscreen] at h
    · obtain ⟨p, hp⟩ := not_forall.mp hscreen
      obtain ⟨rfl, htrue⟩ := Classical.not_imp.mp hp
      have hfalse : isScreen p = false := by simpa using htrue
      rw [deliver_of_not_isScreen hfalse] at h
      cases hwrite : w.write p (Page.result text).inFile with
      | error pe =>
          simp only [hwrite, Except.mapError, Except.map, Except.error.injEq] at h
          exact ⟨p, pe, htext, rfl, hfalse, h.symm⟩
      | ok w' => simp [hwrite, Except.mapError, Except.map] at h

/-! ## What a comparison leaves behind -/

theorem delivery_failed (w : Workspace) (g : Globals) (m : List Message) (e : Failure) :
    (Outcome.failed w g m e).delivery = .nothing := by
  unfold Outcome.failed
  cases e.handling <;> rfl

theorem eq_of_failure_failed {e' : Failure} {m : List Message}
    (h : (Outcome.failed w g m e').failure = some e) : e' = e := by
  revert h
  unfold Outcome.failed Outcome.ending
  cases e'.handling <;> cases g.debug <;> simp

theorem runDiff_of_error (h : (renderDiff w r).2 = .error e) (g : Globals)
    (before : List Message) :
    ∃ m, runDiff w g before r = .failed w g m e := by
  unfold runDiff
  split
  · next log f heq =>
      rw [heq] at h
      cases h
      exact ⟨_, rfl⟩
  · next log d heq =>
      rw [heq] at h
      contradiction

theorem Loads.runDiff {s : Settings} {f : ClassFilter} {a b : Project} {text : String}
    (h : Loads w r s f a b) (ht : textOf s r a b = .ok text) (g : Globals)
    (before : List Message) :
    ∃ m m', runDiff w g before r =
      .delivered w g m m' (verdict (Report.between a b)) (deliverText w text r.output) := by
  have hrender : (renderDiff w r).2 = .ok ⟨Report.between a b, text⟩ := by
    simp [h.snd_renderDiff, ht, Except.mapError, Except.map]
  unfold CommandLine.runDiff
  split
  · next log f heq =>
      rw [heq] at hrender
      contradiction
  · next log d heq =>
      rw [heq] at hrender
      cases hrender
      exact ⟨_, _, rfl⟩

theorem runDiff_of_fails (h : Fails w r e) (g : Globals) (before : List Message) :
    ∃ m, runDiff w g before r = .failed w g m e := by
  rcases h.render_or_deliver with hrender | ⟨s, f, a, b, text, hloads, ht, hd⟩
  · exact runDiff_of_error hrender g before
  · obtain ⟨m, m', hrun⟩ := hloads.runDiff ht g before
    rw [hrun, hd]
    exact ⟨m, rfl⟩

/-! ## Exit codes -/

/-- A failure that leaves the program without being reported. -/
inductive Failure.Escapes : Failure → Prop
  | undecodable (p : Path) : Escapes (.settings (.undecodable p))
  | tooManyDigits (count : Option Nat) : Escapes (.settings (.tooManyDigits count))
  | toolNotTable : Escapes (.settings .toolNotTable)
  | boundTooLarge (pattern : String) : Escapes (.filter ⟨pattern, .boundTooLarge⟩)
  | write (p : Path) (e : PathError) : Escapes (.write p e)

theorem Failure.handling_eq_unhandled_iff : e.handling = .unhandled ↔ e.Escapes := by
  constructor
  · intro h
    cases e with
    | settings se => cases se <;> first | constructor | contradiction
    | filter fe =>
        obtain ⟨pattern, cause⟩ := fe
        cases cause <;> first | constructor | contradiction
    | load le =>
        simp only [handling, loadHandling] at h
        split at h <;> contradiction
    | render re => contradiction
    | write p pe => constructor
  · intro h
    cases h <;> rfl

/-- A status that a failure is reported with is neither of those of a comparison. -/
theorem Failure.code_of_foreseen {status : ExitStatus} {text : String}
    (h : e.handling = .foreseen status text) : status.code ≠ 0 ∧ status.code ≠ 1 := by
  cases e with
  | settings se =>
      simp only [handling, settingsHandling] at h
      split at h <;> cases h
      decide
  | filter fe =>
      simp only [handling] at h
      split at h <;> contradiction
  | load le =>
      simp only [handling, loadHandling] at h
      split at h <;> cases h <;> decide
  | render re => contradiction
  | write p pe => contradiction

/-- Without debugging a failure has its own code, unless it escapes; then it has the code of
reports that differ. -/
theorem code_failed (hdebug : g.debug = false) (m : List Message) (e : Failure) :
    (e.Escapes ∧ (Outcome.failed w g m e).status.code = 1 ∧
        (Outcome.failed w g m e).failure = some e) ∨
      ¬e.Escapes ∧ (Outcome.failed w g m e).status.code ≠ 0 ∧
        (Outcome.failed w g m e).status.code ≠ 1 ∧ (Outcome.failed w g m e).failure = none := by
  rw [← Failure.handling_eq_unhandled_iff]
  unfold Outcome.failed Outcome.ending
  cases h : e.handling with
  | foreseen status text =>
      obtain ⟨hzero, hone⟩ := Failure.code_of_foreseen h
      simp [hdebug, hzero, hone]
  | unforeseen => simp [hdebug, ExitStatus.code]
  | misuse => simp [ExitStatus.code]
  | unhandled => simp [ExitStatus.code]

/-! ## Comparisons that come to their end -/

/-- Whatever the reports and files are, a comparison comes to its end or fails at some stage. -/
theorem succeeds_or_fails (w : Workspace) (g : Globals) (before : List Message) (r : DiffRequest) :
    (∃ equivalent, Succeeds w r equivalent (runDiff w g before r)) ∨ ∃ e, Fails w r e := by
  rcases renderDiff_cases w r with ⟨s, f, a, b, text, hloads, ht⟩ | ⟨e, he, _⟩
  · cases hd : deliverText w text r.output with
    | error e => exact .inr ⟨e, .write hloads ht hd⟩
    | ok result =>
        obtain ⟨m, m', hrun⟩ := hloads.runDiff ht g before
        rw [hrun, hd]
        exact .inl ⟨_, .intro hloads rfl ht (delivers_of_deliverText hd)⟩
  · exact .inr ⟨e, he⟩

/-- A comparison that comes to its end has the code of what it found. -/
theorem code_of_succeeds {equivalent : Bool} {before : List Message}
    (h : Succeeds w r equivalent (runDiff w g before r)) :
    (runDiff w g before r).status.code = if equivalent then 0 else 1 := by
  cases h with
  | intro hloads hverdict ht hdelivers =>
    rename_i text
    obtain ⟨m, m', hrun⟩ := hloads.runDiff ht g before
    cases hd : deliverText w text r.output with
    | ok result =>
        rw [hrun, hd]
        simp only [Outcome.delivered, verdict, hverdict]
        cases equivalent <;> rfl
    | error e =>
        -- a page that could not be written was not delivered
        obtain ⟨p, pe, htext, hp, hscreen, rfl⟩ := deliverText_eq_error hd
        have hsaved := (hdelivers.saved p htext hp hscreen).1
        rw [hrun, hd, Outcome.delivered, delivery_failed] at hsaved
        contradiction

/-- A failure that leaves a comparison is one of its failures. -/
theorem fails_of_failure {before : List Message} (h : (runDiff w g before r).failure = some e) :
    Fails w r e := by
  rcases renderDiff_cases w r with ⟨s, f, a, b, text, hloads, ht⟩ | ⟨e', he', hrender⟩
  · obtain ⟨m, m', hrun⟩ := hloads.runDiff ht g before
    cases hd : deliverText w text r.output with
    | ok result =>
        rw [hrun, hd] at h
        contradiction
    | error e' =>
        rw [hrun, hd, Outcome.delivered] at h
        rw [← eq_of_failure_failed h]
        exact .write hloads ht hd
  · obtain ⟨m, hm⟩ := runDiff_of_error hrender g before
    rw [hm] at h
    rw [← eq_of_failure_failed h]
    exact he'

/-! ## Truth -/

/-- The exit code of a comparison says what became of it: 0 that the reports were loaded, found
equivalent and the text delivered, 1 the same of reports that differ; and a failure has another. -/
structure TellsTruth (w : Workspace) (r : DiffRequest) (o : Outcome) : Prop where
  equivalent : o.status.code = 0 → Succeeds w r true o
  different : o.status.code = 1 → Succeeds w r false o
  failure : ∀ e, Fails w r e → o.status.code ≠ 0 ∧ o.status.code ≠ 1

/-- What a comparison leaves behind is accounted for by its end or by a failure. -/
structure Accounted (w : Workspace) (r : DiffRequest) (o : Outcome) : Prop where
  total : (∃ equivalent, Succeeds w r equivalent o) ∨ ∃ e, Fails w r e
  success : ∀ equivalent, Succeeds w r equivalent o → o.status.code = if equivalent then 0 else 1
  failure : ∀ e, Fails w r e →
    (e.Escapes ∧ o.status.code = 1 ∧ o.failure = some e) ∨
      ¬e.Escapes ∧ o.status.code ≠ 0 ∧ o.status.code ≠ 1 ∧ o.failure = none
  failed : ∀ e, o.failure = some e → Fails w r e

theorem accounted_runDiff (hdebug : g.debug = false) (before : List Message) :
    Accounted w r (runDiff w g before r) where
  total := succeeds_or_fails w g before r
  success := fun _ => code_of_succeeds
  failure := by
    intro e he
    obtain ⟨m, hm⟩ := runDiff_of_fails he g before
    rw [hm]
    exact code_failed hdebug m e
  failed := fun _ => fails_of_failure

namespace Accounted

theorem code_eq_zero_iff (h : Accounted w r o) : o.status.code = 0 ↔ Succeeds w r true o := by
  constructor
  · intro hcode
    rcases h.total with ⟨equivalent, hs⟩ | ⟨e, he⟩
    · cases equivalent with
      | true => exact hs
      | false => simp [h.success false hs] at hcode
    · rcases h.failure e he with ⟨_, hone, _⟩ | ⟨_, hne, _⟩
      · simp [hone] at hcode
      · exact absurd hcode hne
  · exact h.success true

theorem code_eq_one_iff (h : Accounted w r o) :
    o.status.code = 1 ↔ Succeeds w r false o ∨ ∃ e, Fails w r e ∧ e.Escapes := by
  constructor
  · intro hcode
    rcases h.total with ⟨equivalent, hs⟩ | ⟨e, he⟩
    · cases equivalent with
      | true => simp [h.success true hs] at hcode
      | false => exact .inl hs
    · rcases h.failure e he with ⟨hescapes, _⟩ | ⟨_, _, hne, _⟩
      · exact .inr ⟨e, he, hescapes⟩
      · exact absurd hcode hne
  · rintro (hs | ⟨e, he, hescapes⟩)
    · exact h.success false hs
    · rcases h.failure e he with ⟨_, hone, _⟩ | ⟨hnot, _⟩
      · exact hone
      · exact absurd hescapes hnot

theorem failure_eq_some_iff (h : Accounted w r o) :
    o.failure = some e ↔ Fails w r e ∧ e.Escapes := by
  constructor
  · intro hsome
    have he := h.failed e hsome
    refine ⟨he, ?_⟩
    rcases h.failure e he with ⟨hescapes, _⟩ | ⟨_, _, _, hnone⟩
    · exact hescapes
    · simp [hnone] at hsome
  · rintro ⟨he, hescapes⟩
    obtain ⟨_, _, hsome⟩ := (h.failure e he).resolve_right fun hright => hright.1 hescapes
    exact hsome

theorem tellsTruth_iff (h : Accounted w r o) :
    TellsTruth w r o ↔ ∀ e, Fails w r e → ¬e.Escapes := by
  constructor
  · intro htruth e he hescapes
    have hcode : o.status.code = 1 := h.code_eq_one_iff.mpr (.inr ⟨e, he, hescapes⟩)
    exact (htruth.failure e he).2 hcode
  · intro hnone
    refine ⟨h.code_eq_zero_iff.mp, ?_, ?_⟩
    · intro hcode
      refine (h.code_eq_one_iff.mp hcode).resolve_right ?_
      rintro ⟨e, he, hescapes⟩
      exact hnone e he hescapes
    · intro e he
      obtain ⟨_, hzero, hone, _⟩ := (h.failure e he).resolve_left fun hleft => hnone e he hleft.1
      exact ⟨hzero, hone⟩

end Accounted

/-- **Exit codes** of comparisons, without debugging: they tell the truth exactly if no failure
escapes.  The code is 0 for equivalent reports alone, and 1 for reports that differ and for failures
that escape. -/
theorem exitCode_tells_truth_iff {args : List String} {q : Request}
    (hread : Request.read args = .ok q) (htask : q.task = .diff r)
    (hdebug : q.globals.debug = false) :
    (TellsTruth w r (run w args) ↔ ∀ e, Fails w r e → ¬e.Escapes) ∧
      ((run w args).status.code = 0 ↔ Succeeds w r true (run w args)) ∧
      ((run w args).status.code = 1 ↔
        Succeeds w r false (run w args) ∨ ∃ e, Fails w r e ∧ e.Escapes) ∧
      (∀ e, (run w args).failure = some e ↔ Fails w r e ∧ e.Escapes) ∧
      ((∃ equivalent, Succeeds w r equivalent (run w args)) ∨ ∃ e, Fails w r e) := by
  have hrun : run w args = runDiff w q.globals (openingMessages q.globals) r := by
    simp only [run, hread, runRequest, htask]
  have h : Accounted w r (run w args) := by
    rw [hrun]
    exact accounted_runDiff hdebug (openingMessages q.globals)
  exact ⟨h.tellsTruth_iff, h.code_eq_zero_iff, h.code_eq_one_iff,
    fun _ => h.failure_eq_some_iff, h.total⟩

end CommandLine

/-! ## Samples -/

namespace Sample

open Files CommandLine

/-- Two reports, the second with a class, and a folder. -/
def reportsAndFolder : Workspace where
  tree :=
    { entries :=
        [(["a.xml"], .file (Text.encodeUtf8 "<coverage/>".toList)),
          (["b.xml"], .file (Text.encodeUtf8 "<coverage><class name='A'/></coverage>".toList)),
          (["d"], .folder)] }

/-- A report compared with itself, the document to be written where the folder is. -/
def intoFolder : DiffRequest where
  baseline := .ofText "a.xml"
  current := .ofText "a.xml"
  format := some (.fixed .json)
  output := some (.ofText "d")

/-- The document cannot be written, and the exit code is that of reports that differ, although the
reports were found equivalent. -/
theorem code_of_intoFolder :
    Request.read ["diff", "a.xml", "a.xml", "--format", "json", "--output", "d"] =
        .ok { task := .diff intoFolder } ∧
      (renderDiff reportsAndFolder intoFolder).2.map (fun d => d.report.isEmpty) = .ok true ∧
      (run reportsAndFolder
        ["diff", "a.xml", "a.xml", "--format", "json", "--output", "d"]).status.code = 1 ∧
      ¬TellsTruth reportsAndFolder intoFolder (run reportsAndFolder
        ["diff", "a.xml", "a.xml", "--format", "json", "--output", "d"]) := by
  have hcode : (run reportsAndFolder
      ["diff", "a.xml", "a.xml", "--format", "json", "--output", "d"]).status.code = 1 := by
    decide +kernel
  have hfailure : (runDiff reportsAndFolder {} [] intoFolder).failure =
      some (.write (.ofText "d") .isFolder) := by decide +kernel
  refine ⟨by decide +kernel, by decide +kernel, hcode, ?_⟩
  intro htruth
  exact (htruth.failure _ (fails_of_failure hfailure)).2 hcode

/-- Reports that differ, the rows to be written to a new file in a new folder. -/
def intoFile : DiffRequest where
  baseline := .ofText "a.xml"
  current := .ofText "b.xml"
  output := some (.ofText "e/out.txt")

theorem code_of_intoFile :
    (run reportsAndFolder ["diff", "a.xml", "b.xml", "--output", "e/out.txt"]).status.code = 1 ∧
      Succeeds reportsAndFolder intoFile false
        (run reportsAndFolder ["diff", "a.xml", "b.xml", "--output", "e/out.txt"]) := by
  have hread : Request.read ["diff", "a.xml", "b.xml", "--output", "e/out.txt"] =
      .ok { task := .diff intoFile } := by decide +kernel
  have hcode : (run reportsAndFolder
      ["diff", "a.xml", "b.xml", "--output", "e/out.txt"]).status.code = 1 := by decide +kernel
  have hfailure : (run reportsAndFolder
      ["diff", "a.xml", "b.xml", "--output", "e/out.txt"]).failure = none := by decide +kernel
  obtain ⟨_, _, hone, hescapes, _⟩ :=
    exitCode_tells_truth_iff (w := reportsAndFolder) (r := intoFile) hread rfl rfl
  refine ⟨hcode, (hone.mp hcode).resolve_right ?_⟩
  rintro ⟨e, he⟩
  rw [(hescapes e).mpr he] at hfailure
  contradiction

end Sample

end CoverageDiff
