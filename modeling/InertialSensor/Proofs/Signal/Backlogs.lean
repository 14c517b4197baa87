import InertialSensor.Proofs.Signal.Streams

/-!
# What becomes of unread reports

A report that was made is delivered by a read, overwritten by a later one, discarded together with
all others, or still in the backlog. `Transit` says this of a change of one stream; transits follow
one another, and a whole step is one (`Step.transit`).
-/

namespace InertialSensor

/-! ### Transits -/

/-- What became of the reports of a stream in a change of its state: reports were made and
delivered, a number of them discarded, and windows closed with a number of them. Delivered and
unread reports are in the order in which they were made, and none is among them twice. -/
structure Transit (made delivered : List Report) (discarded closings : Nat)
    (before after : Stream) : Prop where
  roomy : 1 ≤ before.backlog.capacity → 1 ≤ after.backlog.capacity
  balance : 1 ≤ before.backlog.capacity →
    before.backlog.size + before.backlog.overwritten + made.length =
      after.backlog.size + after.backlog.overwritten + delivered.length + discarded
  order : (delivered ++ after.backlog.items).Sublist (before.backlog.items ++ made)
  suffix : after.backlog.items <:+ before.backlog.items ++ made
  overwritten : before.backlog.overwritten ≤ after.backlog.overwritten
  closed : after.closed = before.closed + closings

namespace Transit

variable {made delivered made' delivered' : List Report}
  {discarded closings discarded' closings' : Nat} {s s' s'' : Stream}

lemma of_same (backlog : s'.backlog = s.backlog) (closed : s'.closed = s.closed) :
    Transit [] [] 0 0 s s' where
  roomy room := backlog ▸ room
  balance _ := by rw [backlog]; rfl
  order := by rw [backlog, List.append_nil]; exact List.Sublist.refl _
  suffix := by rw [backlog, List.append_nil]
  overwritten := by rw [backlog]
  closed := closed

lemma refl (s : Stream) : Transit [] [] 0 0 s s := .of_same rfl rfl

lemma trans (h : Transit made delivered discarded closings s s')
    (h' : Transit made' delivered' discarded' closings' s' s'') :
    Transit (made ++ made') (delivered ++ delivered') (discarded + discarded')
      (closings + closings') s s'' where
  roomy room := h'.roomy (h.roomy room)
  balance room := by
    have first := h.balance room
    have second := h'.balance (h.roomy room)
    simp only [List.length_append]
    omega
  order := by
    have later := h'.order.append_left delivered
    have earlier := h.order.append_right made'
    simp only [List.append_assoc] at later earlier ⊢
    exact later.trans earlier
  suffix := by
    obtain ⟨lost, split⟩ := h.suffix
    refine h'.suffix.trans ⟨lost, ?_⟩
    rw [← List.append_assoc, split, List.append_assoc]
  overwritten := h.overwritten.trans h'.overwritten
  closed := by rw [h'.closed, h.closed, Nat.add_assoc]

/-- A sample makes one report, at the expense of the oldest one if the backlog is full. -/
lemma of_accept (s : Stream) (conditions : Conditions) (scaling : Scaling)
    (temperature : Option DieTemperature) (raw : Axes Int16) :
    let (report, closed, s') := s.accept conditions scaling temperature raw
    Transit [report] [] 0 closed.toNat s s' := by
  simp only [Stream.accept]
  generalize s.window.put conditions.time _ = r
  obtain ⟨delta, window⟩ := r
  refine ⟨fun room => ?_, fun room => ?_, ?_, ?_, ?_, ?_⟩
  · rwa [Backlog.capacity_push]
  · simp only [Backlog.push]
    split
    · next full =>
      simp only [Backlog.size] at full
      simp only [Backlog.size, List.length_append, List.length_tail, List.length_singleton,
        List.length_nil]
      omega
    · simp only [Backlog.size, List.length_append, List.length_singleton, List.length_nil]
      omega
  · rw [Backlog.items_push, List.nil_append]
    split
    · exact (List.tail_sublist _).append_right _
    · exact List.Sublist.refl _
  · rw [Backlog.items_push]
    split
    · obtain ⟨lost, split⟩ := List.tail_suffix s.backlog.items
      exact ⟨lost, by rw [← List.append_assoc, split]⟩
    · exact List.suffix_rfl
  · simp only [Backlog.push]
    split
    · exact Nat.le_succ _
    · exact le_rfl
  · cases delta with
    | none => rfl
    | some => rfl

/-- Unread reports are delivered, oldest first. -/
lemma of_take (s : Stream) (max : Nat) :
    Transit [] (s.backlog.take max).1 0 0 s { s with backlog := (s.backlog.take max).2 } where
  roomy room := room
  balance _ := by
    have split := congrArg List.length (s.backlog.items_take max)
    have overwritten : (s.backlog.take max).2.overwritten = s.backlog.overwritten := rfl
    rw [List.length_append] at split
    simp only [Backlog.size, List.length_nil]
    omega
  order := by rw [Backlog.items_take, List.append_nil]
  suffix := by rw [List.append_nil]; exact List.drop_suffix max _
  overwritten := le_rfl
  closed := rfl

/-- All unread reports are discarded. -/
lemma of_empty {backlog : Backlog Report} (empty : backlog.items = [])
    (roomy : 1 ≤ s.backlog.capacity → 1 ≤ backlog.capacity)
    (overwritten : backlog.overwritten = s.backlog.overwritten) :
    Transit [] [] s.backlog.size 0 s { s with backlog := backlog } where
  roomy := roomy
  balance _ := by
    simp only [Backlog.size, empty, overwritten, List.length_nil]
    omega
  order := by rw [empty]; exact List.nil_sublist _
  suffix := by rw [empty]; exact List.nil_suffix
  overwritten := overwritten.ge
  closed := rfl

lemma of_flush (s : Stream) : Transit [] [] s.backlog.size 0 s s.flush := of_empty rfl id rfl

lemma of_resize {depth : Nat} {backlog : Backlog Report}
    (resized : s.backlog.resize? depth = some backlog) :
    Transit [] [] s.backlog.size 0 s { s with backlog := backlog } := by
  simp only [Backlog.resize?] at resized
  split at resized
  · next allowed =>
    cases resized
    exact of_empty rfl (fun _ => allowed.1) rfl
  · cases resized

end Transit

/-! ### Cycles -/

namespace Passage

open Driver

variable {σ : Type} [Transport σ]

/-- A cycle adds its report to the backlog of a stream, and does nothing else to it. -/
lemma transit (c : Channel) (p : Passage σ) :
    Transit (p.report? c).toList [] 0 (p.closed c).toNat (p.before.streams.get c)
      (p.after.streams.get c) := by
  cases samples : p.samples with
  | false =>
    have same : p.after.streams = p.before.streams := (p.interior_of_unsampled samples).streams
    rw [report?_of_unsampled c samples, closed_of_unsampled c samples, same]
    exact .refl _
  | true =>
    obtain ⟨d, sample, same, outcome, after⟩ := p.exists_sample samples
    have streams : d.streams = p.before.streams := same.streams
    rw [report?_of_accept outcome after, closed_of_accept outcome, after, stream_accept, ← streams]
    exact .of_accept ..

end Passage

namespace Driver

open Routine

variable {σ : Type}

/-- What a change of one stream does to each stream. -/
lemma transit_modify {c c' : Channel} {f : Stream → Stream} {delivered : List Report}
    {discarded : Nat} {streams : PerChannel Stream}
    (h : Transit [] delivered discarded 0 (streams.get c') (f (streams.get c'))) :
    Transit [] (if c' = c then delivered else []) (if c' = c then discarded else 0) 0
      (streams.get c) ((streams.modify c' f).get c) := by
  by_cases same : c' = c
  · subst same
    rw [if_pos rfl, if_pos rfl, PerChannel.get_modify_same]
    exact h
  · rw [if_neg same, if_neg same, PerChannel.get_modify_of_ne _ f (Ne.symm same)]
    exact .refl _

lemma setQueueDepth_of_none {c : Channel} {depth : Nat} {d : Driver σ}
    (refused : (d.streams.get c).backlog.resize? depth = none) :
    setQueueDepth c depth d = (.error (.invalidArgument (.queueDepth depth)), d) := by
  rw [setQueueDepth, bind_apply]
  simp only [look_apply, refused]
  rfl

lemma setQueueDepth_of_some {c : Channel} {depth : Nat} {d : Driver σ} {backlog : Backlog Report}
    (resized : (d.streams.get c).backlog.resize? depth = some backlog) :
    setQueueDepth c depth d =
      (.ok (), { d with streams := d.streams.modify c fun s => { s with backlog := backlog } }) := by
  rw [setQueueDepth, bind_apply]
  simp only [look_apply, resized]
  rfl

/-! ### Steps -/

/-- The reports that a read answers with. -/
def served (result : Except Failure (List Report)) : List Report := result.toOption.getD []

/-- Besides counting itself, a read takes what it answers with off the backlog. -/
lemma countedTake_takes (c : Channel) (max : Nat) (d : Driver σ) :
    served (countedTake c max d).1 = ((d.streams.get c).backlog.take max).1 ∧
      (countedTake c max d).2.streams =
        d.streams.modify c fun s => { s with backlog := ((d.streams.get c).backlog.take max).2 } := by
  simp only [countedTake, tally, bind_apply, update_apply, takeReports_apply]
  split
  · next nothing => exact ⟨(List.isEmpty_iff.mp nothing).symm, rfl⟩
  · exact ⟨rfl, rfl⟩

lemma countedTake_transit (c c' : Channel) (max : Nat) (d : Driver σ) :
    Transit [] (if c' = c then served (countedTake c' max d).1 else []) 0 0 (d.streams.get c)
      ((countedTake c' max d).2.streams.get c) := by
  obtain ⟨taken, streams⟩ := countedTake_takes c' max d
  have transit := transit_modify (c := c)
    (f := fun s => { s with backlog := ((d.streams.get c').backlog.take max).2 })
    (.of_take (d.streams.get c') max)
  rw [taken, streams]
  simpa only [ite_self] using transit

variable [Transport σ]

namespace Step

/-- The reports of a stream that the step delivered. -/
def delivered (c : Channel) (s : Step σ) : List Report :=
  match s.operation, s.answer with
  | .read c' _, .ok (.reports reports) => if c' = c then reports else []
  | _, _ => []

/-- The number of unread reports of a stream that the step discarded, whatever came of the cycle
within it. -/
def discarded (c : Channel) (s : Step σ) : Nat :=
  let unread := (s.before.streams.get c).backlog.size
  match s.operation with
  | .read c' max => if c' = c ∧ max ≠ 0 ∧ s.before.pollInterval = 0 then unread else 0
  | .setQueueDepth c' _ => if c' = c ∧ s.answer.isOk then unread else 0
  | .forgetHistory => unread
  | _ => 0

/-- What the step does to a stream is accounted for by the report it makes, the reports it delivers
and those it discards. -/
def Accounted (c : Channel) (s : Step σ) : Prop :=
  Transit (s.report? c).toList (s.delivered c) (s.discarded c) (s.closed c).toNat
    (s.before.streams.get c) (s.after.streams.get c)

/-- A request answers with what its routine answers with. -/
lemma delivered_read (c c' : Channel) (max : Nat) (d : Driver σ) :
    delivered c ⟨.read c' max, d⟩ = if c' = c then served (read c' max d).1 else [] := by
  simp only [delivered, answer, perform, bind_apply]
  generalize read c' max d = r
  obtain ⟨cause | reports, d'⟩ := r
  · simp [served, Except.toOption]
  · rfl

/-- A step without a read delivers nothing. -/
lemma delivered_of_not_read {c : Channel} {s : Step σ}
    (other : ∀ c' max, s.operation ≠ .read c' max) : s.delivered c = [] := by
  rw [delivered]
  split
  · next c' max reports operation _ => exact absurd operation (other c' max)
  · rfl

/-- The step leaves the backlog of a stream and its count of closed windows to its cycle. -/
lemma transit_of_same {c : Channel} {s : Step σ} (without : s.passage? = none)
    (delivered : s.delivered c = []) (discarded : s.discarded c = 0)
    (backlog : (s.after.streams.get c).backlog = (s.before.streams.get c).backlog)
    (closed : (s.after.streams.get c).closed = (s.before.streams.get c).closed) :
    Accounted c s := by
  have unreported : s.report? c = none := by simp [report?, without]
  have unclosed : s.closed c = false := by simp [Step.closed, without]
  rw [Accounted, unreported, unclosed, delivered, discarded]
  exact .of_same backlog closed

lemma transit_read (c c' : Channel) (max : Nat) (d : Driver σ) :
    Accounted c ⟨.read c' max, d⟩ := by
  set s : Step σ := ⟨.read c' max, d⟩
  have after : s.after = (read c' max d).2 := (answered (read c' max) .reports d).1
  have delivered := delivered_read c c' max d
  by_cases nothing : max = 0
  · subst nothing
    rw [read_zero] at after delivered
    refine transit_of_same rfl ?_ ?_ (by rw [after]; rfl) (by rw [after]; rfl)
    · rw [delivered]
      exact ite_self []
    · exact if_neg fun all => all.2.1 rfl
  · by_cases onDemand : d.pollInterval = 0
    · set p : Passage σ := ⟨{ d with streams := d.streams.modify c' (·.flush) }⟩ with start
      have within : s.passage? = some p :=
        passage?_read_eq_some_iff.mpr ⟨⟨nothing, onDemand⟩, rfl⟩
      have discarded : s.discarded c = if c' = c then (d.streams.get c').backlog.size else 0 := by
        by_cases same : c' = c
        · subst same
          rw [if_pos rfl]
          exact if_pos ⟨rfl, nothing, onDemand⟩
        · rw [if_neg same]
          exact if_neg fun all => same all.1
      have flushed : Transit [] [] (s.discarded c) 0 (d.streams.get c) (p.before.streams.get c) := by
        have transit := transit_modify (c := c) (.of_flush (d.streams.get c'))
        rwa [ite_self, ← discarded] at transit
      have cycled := flushed.trans (p.transit c)
      rw [List.nil_append, Nat.zero_add] at cycled
      rw [read_of_demand c' nothing onDemand] at after delivered
      simp only [Accounted, report?, Step.closed, within, Option.bind_some, Option.any_some]
      rcases measured : measure p.before with ⟨cause | outcome, d'⟩
      · rw [bind_of_error _ measured] at after delivered
        have ends : p.after = d' := congrArg Prod.snd measured
        rw [after, delivered, show served (.error cause) = [] from rfl, ite_self, ← ends]
        exact cycled
      · rw [bind_of_ok _ measured] at after delivered
        have ends : p.after = d' := congrArg Prod.snd measured
        rw [after, delivered, ← ends]
        have taken := cycled.trans (countedTake_transit c c' max p.after)
        simpa only [List.append_nil, List.nil_append, Nat.add_zero] using taken
    · have without : s.passage? = none :=
        passage?_read_eq_none_iff.mpr fun both => onDemand both.2
      have discarded : s.discarded c = 0 := if_neg fun all => onDemand all.2.2
      rw [read_of_polled c' nothing onDemand] at after delivered
      simp only [Accounted, report?, Step.closed, without, Option.bind_none, Option.any_none]
      rw [after, discarded, delivered]
      exact countedTake_transit c c' max d

/-- A step that ends in a state with the same streams does nothing to them. -/
lemma transit_of_streams {c : Channel} {s : Step σ} (without : s.passage? = none)
    (delivered : s.delivered c = []) (discarded : s.discarded c = 0)
    (same : s.after.streams = s.before.streams) : Accounted c s :=
  transit_of_same without delivered discarded (by rw [same]) (by rw [same])

/-- A step that ends with one stream changed does to it what the change does. -/
lemma transit_of_modify {c : Channel} (c' : Channel) (f : Stream → Stream) {lost : Nat}
    {s : Step σ} (without : s.passage? = none) (delivered : s.delivered c = [])
    (discarded : s.discarded c = if c' = c then lost else 0)
    (changed : Transit [] [] lost 0 (s.before.streams.get c') (f (s.before.streams.get c')))
    (after : s.after.streams = s.before.streams.modify c' f) : Accounted c s := by
  have unreported : s.report? c = none := by simp [report?, without]
  have unclosed : s.closed c = false := by simp [Step.closed, without]
  have transit := transit_modify (c := c) changed
  rw [ite_self] at transit
  rw [Accounted, unreported, unclosed, delivered, discarded, after]
  exact transit

lemma transit_measure (c : Channel) (d : Driver σ) : Accounted c ⟨.measure, d⟩ := by
  have undelivered : delivered c (⟨.measure, d⟩ : Step σ) = [] := delivered_of_not_read nofun
  have after : (⟨.measure, d⟩ : Step σ).after = (⟨d⟩ : Passage σ).after :=
    (answered measure .cycle d).1
  have cycle := Passage.transit c ⟨d⟩
  rw [Accounted, after, undelivered]
  exact cycle

lemma transit_selfTest (c c' : Channel) (d : Driver σ) : Accounted c ⟨.selfTest c', d⟩ := by
  have undelivered : delivered c (⟨.selfTest c', d⟩ : Step σ) = [] := delivered_of_not_read nofun
  have interior := interior_selfTest c' d
  by_cases fresh : d.stats.cycles = 0
  · rw [if_pos fresh] at interior
    have within : (⟨.selfTest c', d⟩ : Step σ).passage? = some ⟨d⟩ :=
      passage?_selfTest_eq_some_iff.mpr ⟨fresh, rfl⟩
    have streams : (perform (.selfTest c') d).2.streams = (⟨d⟩ : Passage σ).after.streams :=
      congrArg (·.processing.streams) interior
    rw [Accounted, undelivered]
    simp only [report?, Step.closed, within, Option.bind_some, Option.any_some, after, streams]
    exact Passage.transit c ⟨d⟩
  · rw [if_neg fresh] at interior
    exact transit_of_streams (passage?_selfTest_eq_none_iff.mpr fresh) undelivered rfl
      (congrArg (·.processing.streams) interior)

lemma transit_setPollInterval (c : Channel) (us : UInt64) (d : Driver σ) :
    Accounted c ⟨.setPollInterval us, d⟩ := by
  have undelivered : delivered c (⟨.setPollInterval us, d⟩ : Step σ) = [] :=
    delivered_of_not_read nofun
  have streams := streams_setPollInterval us d
  rw [← (answered (setPollInterval us) (fun _ => .done) d).1] at streams
  by_cases onDemand : us = 0
  · rw [if_pos onDemand] at streams
    exact transit_of_streams rfl undelivered rfl streams
  · rw [if_neg onDemand] at streams
    have redesigned : (⟨.setPollInterval us, d⟩ : Step σ).after.streams = _ := streams
    refine transit_of_same rfl undelivered rfl ?_ ?_
    · rw [redesigned, PerChannel.get_map]
      rfl
    · rw [redesigned, PerChannel.get_map]
      rfl

lemma transit_setCalibration (c c' : Channel) (calibration : Calibration) (d : Driver σ) :
    Accounted c ⟨.setCalibration c' calibration, d⟩ := by
  have undelivered : delivered c (⟨.setCalibration c' calibration, d⟩ : Step σ) = [] :=
    delivered_of_not_read nofun
  by_cases refused : c' = .accel ∧ ¬ calibration.Plausible
  · have failed : setCalibration (σ := σ) c' calibration =
        fail (.invalidArgument (.accelScaleSum calibration.scaleSum)) := if_pos refused
    refine transit_of_streams rfl undelivered rfl ?_
    simp only [after, perform, failed]
    rfl
  · have changed : setCalibration (σ := σ) c' calibration =
        updateStream c' fun s => { s with calibration := calibration } := if_neg refused
    refine transit_of_modify c' (fun s => { s with calibration := calibration }) rfl
      undelivered (ite_self 0).symm (.of_same rfl rfl) ?_
    simp only [after, perform, changed]
    rfl

lemma transit_setQueueDepth (c c' : Channel) (depth : Nat) (d : Driver σ) :
    Accounted c ⟨.setQueueDepth c' depth, d⟩ := by
  have undelivered : delivered c (⟨.setQueueDepth c' depth, d⟩ : Step σ) = [] :=
    delivered_of_not_read nofun
  obtain ⟨state, answer⟩ := answered (setQueueDepth c' depth) (fun _ => .done) d
  cases resized : (d.streams.get c').backlog.resize? depth with
  | none =>
    rw [setQueueDepth_of_none resized] at state answer
    refine transit_of_streams rfl undelivered (if_neg fun both => ?_)
      (congrArg Driver.streams state)
    cases answer.symm.trans both.2
  | some backlog =>
    rw [setQueueDepth_of_some resized] at state answer
    refine transit_of_modify c' (fun s => { s with backlog := backlog }) rfl undelivered
      ?_ (.of_resize resized) (congrArg Driver.streams state)
    by_cases same : c' = c
    · subst same
      rw [if_pos rfl]
      exact if_pos ⟨rfl, answer⟩
    · rw [if_neg same]
      exact if_neg fun both => same both.1

lemma transit (c : Channel) (s : Step σ) : Accounted c s := by
  obtain ⟨op, d⟩ := s
  by_cases reading : ∃ c' max, op = .read c' max
  · obtain ⟨c', max, rfl⟩ := reading
    exact transit_read c c' max d
  have undelivered : delivered c (⟨op, d⟩ : Step σ) = [] :=
    delivered_of_not_read fun c' max same => reading ⟨c', max, same⟩
  have left {α : Type} {x : Routine σ α} {f : α → Answer} (hx : Leaves processing x) :
      ((do pure (f (← x)) : Routine σ Answer) d).2.streams = d.streams := by
    rw [(answered x f d).1]
    exact congrArg Processing.streams (hx d)
  have inside {α : Type} {x : Routine σ α} {f : α → Answer} (hx : Leaves interior x) :
      ((do pure (f (← x)) : Routine σ Answer) d).2.streams = d.streams :=
    left (leaves_processing hx)
  cases op with
  | read c' max => exact absurd ⟨c', max, rfl⟩ reading
  | measure => exact transit_measure c d
  | selfTest c' => exact transit_selfTest c c' d
  | setPollInterval us => exact transit_setPollInterval c us d
  | setLowPass c' hz =>
    have streams := streams_setLowPass c' hz d
    rw [← (answered (setLowPass c' hz) (fun _ => .done) d).1] at streams
    split at streams
    · exact transit_of_modify c' _ rfl undelivered (ite_self 0).symm (.of_same rfl rfl) streams
    · exact transit_of_streams rfl undelivered rfl streams
  | setCalibration c' calibration => exact transit_setCalibration c c' calibration d
  | setQueueDepth c' depth => exact transit_setQueueDepth c c' depth d
  | forgetHistory =>
    have forgotten : (⟨.forgetHistory, d⟩ : Step σ).after.streams = d.streams.map (·.flush) := rfl
    rw [Accounted, undelivered, forgotten, PerChannel.get_map]
    exact .of_flush _
  | provokeSlowRead =>
    refine transit_of_streams rfl undelivered rfl ?_
    exact (congrArg Driver.streams (answered provokeSlowRead .registers d).1).trans
      (congrArg (·.processing.streams) (provokeSlowRead_interior d))
  | initialise => exact transit_of_streams rfl undelivered rfl (left initialise_leaves)
  | reset => exact transit_of_streams rfl undelivered rfl (left reset_leaves)
  | probe => exact transit_of_streams rfl undelivered rfl (inside probe_leaves)
  | setSampleRate hz =>
    exact transit_of_streams rfl undelivered rfl
      (left (.bind (programRate_leaves hz) fun _ => .update fun _ => rfl))
  | setFullScale g => exact transit_of_streams rfl undelivered rfl (left (programFullScale_leaves g))
  | setMuted muted => exact transit_of_streams rfl undelivered rfl rfl
  | dumpRegisters => exact transit_of_streams rfl undelivered rfl (inside (readAll_leaves _))
  | summarise => exact transit_of_streams rfl undelivered rfl (inside summarise_leaves)
  | wait us => exact transit_of_streams rfl undelivered rfl (inside (delay_leaves us))

end Step

/-! ### Runs -/

lemma reports_cons (c : Channel) (s : Step σ) (steps : List (Step σ)) :
    reports c (s :: steps) = (s.report? c).toList ++ reports c steps := by
  cases report : s.report? c with
  | none => exact reports_cons_of_none report steps
  | some r => exact reports_cons_of_some report steps

/-- Every step that samples makes one report on each stream. -/
lemma length_reports (c : Channel) (steps : List (Step σ)) :
    (reports c steps).length = steps.countP Step.samples := by
  rw [reports, List.length_filterMap_eq_countP]
  simp only [Step.isSome_report?]

/-- What a run does to a stream is accounted for by the reports that its steps make, deliver and
discard. -/
lemma transit_performAll (c : Channel) (ops : List Operation) (d : Driver σ) :
    let steps := history ops d
    Transit (reports c steps) (steps.flatMap (Step.delivered c)) (steps.map (Step.discarded c)).sum
      (steps.countP (Step.closed c)) (d.streams.get c) ((performAll ops d).2.streams.get c) := by
  induction ops generalizing d with
  | nil => exact .refl _
  | cons op ops ih =>
    have both := (Step.transit c ⟨op, d⟩).trans (ih (perform op d).2)
    rw [history]
    intro steps
    rw [reports_cons, List.flatMap_cons, List.map_cons, List.sum_cons, Step.countP_cons]
    exact both

end Driver

end InertialSensor
