import Mathlib.Data.List.Nodup
import AmbientTx.Proofs.Guards

/-! # The word of the guards

The notes of a program are nested as its guards are (`Nested`), so they can be replayed with a stack
of the hooks that have a guard (`Beat.follow`). What one note does to that stack and to the number of
calls is the same, and so it is for any number of notes: whenever the code of the program runs, each
hook was suspended as often as it was resumed, but for the hooks that have a guard then
(`Program.guards_paired`).
-/

namespace AmbientTx

variable {σ ι ν : Type} {η : ι → Type}

/-! ## Nested words -/

/-- Notes that are nested as guards are, under guards over the hooks `live`. -/
inductive Nested : List ι → List (Beat ι) → Prop where
  | nil (live : List ι) : Nested live []
  | acted {live : List ι} {word : List (Beat ι)} (after : Nested live word) :
      Nested live (.acted live :: word)
  | refused {live : List ι} {i : ι} {word : List (Beat ι)} (free : i ∉ live)
      (after : Nested live word) : Nested live (.refused i :: word)
  | guarded {live : List ι} {i : ι} {inner word : List (Beat ι)} (free : i ∉ live)
      (inside : Nested (i :: live) inner) (after : Nested live word) :
      Nested live (.resumed i :: (inner ++ .suspended i :: word))

/-- The hook that is called. -/
def Beat.hook? : Beat ι → Option ι
  | .resumed i | .refused i | .suspended i => some i
  | .acted _ => none

namespace Nested

variable {live : List ι} {word rest : List (Beat ι)}

theorem append (before : Nested live word) (after : Nested live rest) :
    Nested live (word ++ rest) := by
  induction before with
  | nil live => exact after
  | acted _ ih => exact .acted (ih after)
  | refused free _ ih => exact .refused free (ih after)
  | guarded free inside _ _ ih =>
    rw [List.cons_append, List.append_assoc, List.cons_append]
    exact .guarded free inside (ih after)

/-- A hook that has a guard is not called under it. -/
theorem not_called (nested : Nested live word) {i : ι} (held : i ∈ live) :
    ∀ beat ∈ word, beat.hook? ≠ some i := by
  induction nested with
  | nil live => exact fun _ mem => absurd mem List.not_mem_nil
  | acted _ ih => exact List.forall_mem_cons.2 ⟨nofun, ih held⟩
  | refused free _ ih =>
    refine List.forall_mem_cons.2 ⟨?_, ih held⟩
    rintro ⟨⟩
    exact free held
  | @guarded live j inner word free _ _ ihInside ihAfter =>
    have other : j ≠ i := by
      rintro rfl
      exact free held
    have quiet : some j ≠ some i := fun same => other (Option.some.inj same)
    refine List.forall_mem_cons.2 ⟨quiet, List.forall_mem_append.2 ⟨?_, ?_⟩⟩
    · exact ihInside (List.mem_cons_of_mem j held)
    · exact List.forall_mem_cons.2 ⟨quiet, ihAfter held⟩

/-- What follows a resume that returned: the notes under the guard, and the suspend. -/
theorem closes {i : ι} {before after : List (Beat ι)} (nested : Nested live word)
    (split : word = before ++ .resumed i :: after) :
    ∃ live' inner rest, after = inner ++ .suspended i :: rest ∧ i ∉ live' ∧
      Nested (i :: live') inner := by
  induction nested generalizing before after with
  | nil live => simp at split
  | acted _ ih =>
    cases before with
    | nil => cases split
    | cons beat before => exact ih (List.cons.inj split).2
  | refused _ _ ih =>
    cases before with
    | nil => cases split
    | cons beat before => exact ih (List.cons.inj split).2
  | @guarded live j inner word free inside _ ihInside ihAfter =>
    cases before with
    | nil =>
      cases split
      exact ⟨live, inner, word, rfl, free, inside⟩
    | cons beat before =>
      rcases List.append_eq_append_iff.1 (List.cons.inj split).2 with
        ⟨_ | ⟨last, front⟩, -, later⟩ | ⟨_ | ⟨first, back⟩, within, tail⟩
      · cases later
      · exact ihAfter (List.cons.inj later).2
      · cases tail
      · obtain ⟨⟨⟩, rfl⟩ := List.cons.inj tail
        obtain ⟨live', inner', rest, rfl, free', inside'⟩ := ihInside within
        exact ⟨live', inner', rest ++ .suspended j :: word, List.append_assoc inner' _ _, free',
          inside'⟩

end Nested

/-- What a program adds is nested. -/
theorem Program.Adds.nested {live : List ι} {prog : Program σ η ν live} {word : List (Beat ι)}
    {fate : Fate ν} (adds : prog.Adds word fate) : Nested live word := by
  induction adds with
  | value v => exact .nil _
  | panic p => exact .nil _
  | performed v _ ih => exact .acted ih
  | unwound p => exact .acted (.nil _)
  | caught _ _ inside after => exact inside.append after
  | @refused live i free _ _ p => exact .refused free (.nil _)
  | @passed live i free _ _ _ _ _ _ _ _ inside after => exact .guarded free inside after
  | @unwinding live i free _ _ _ _ _ inside => exact .guarded free inside (.nil _)

/-! ## Replaying the notes -/

section Replay

variable [DecidableEq ι] {live now : List ι} {word : List (Beat ι)}

/-- The hooks that have a guard after one more note, if it may come then. -/
def Beat.follow (live : List ι) : Beat ι → Option (List ι)
  | .resumed i => if i ∈ live then none else some (i :: live)
  | .refused i => if i ∈ live then none else some live
  | .suspended i => if live.head? = some i then some live.tail else none
  | .acted now => if now = live then some live else none

/-- Nested notes can be replayed, and leave the guards as they were. -/
theorem Nested.replays (nested : Nested live word) : word.foldlM Beat.follow live = some live := by
  induction nested with
  | nil live => rfl
  | acted _ ih =>
    rw [List.foldlM_cons, Beat.follow, if_pos rfl]
    exact ih
  | refused free _ ih =>
    rw [List.foldlM_cons, Beat.follow, if_neg free]
    exact ih
  | guarded free _ _ inside after =>
    rw [List.foldlM_cons, Beat.follow, if_neg free]
    simp only [Option.bind_eq_bind, Option.bind_some, List.foldlM_append, inside, List.foldlM_cons,
      Beat.follow, List.head?_cons, if_pos, List.tail_cons]
    exact after

/-- One note: a resume that returned takes a guard more, and a suspend one less. -/
theorem Beat.follow_counts {beat : Beat ι} (follows : beat.follow live = some now) (i : ι) :
    [beat].count (.resumed i) + live.count i = [beat].count (.suspended i) + now.count i := by
  cases beat with
  | resumed j =>
    obtain ⟨-, ⟨⟩⟩ := Option.ite_none_left_eq_some.1 follows
    by_cases same : j = i <;> simp [same, Nat.add_comm]
  | refused j =>
    obtain ⟨-, ⟨⟩⟩ := Option.ite_none_left_eq_some.1 follows
    simp
  | suspended j =>
    obtain ⟨top, ⟨⟩⟩ := Option.ite_none_right_eq_some.1 follows
    obtain ⟨rest, rfl⟩ := List.head?_eq_some_iff.1 top
    by_cases same : j = i <;> simp [same, Nat.add_comm]
  | acted now =>
    obtain ⟨-, ⟨⟩⟩ := Option.ite_none_right_eq_some.1 follows
    simp

theorem Beat.follow_nodup {beat : Beat ι} (follows : beat.follow live = some now)
    (nodup : live.Nodup) : now.Nodup := by
  cases beat with
  | resumed j =>
    obtain ⟨free, ⟨⟩⟩ := Option.ite_none_left_eq_some.1 follows
    exact List.nodup_cons.2 ⟨free, nodup⟩
  | refused j =>
    obtain ⟨-, ⟨⟩⟩ := Option.ite_none_left_eq_some.1 follows
    exact nodup
  | suspended j =>
    obtain ⟨-, ⟨⟩⟩ := Option.ite_none_right_eq_some.1 follows
    exact nodup.tail
  | acted now =>
    obtain ⟨-, ⟨⟩⟩ := Option.ite_none_right_eq_some.1 follows
    exact nodup

/-- Any number of notes. -/
theorem counts_of_replay (replays : word.foldlM Beat.follow live = some now) (i : ι) :
    word.count (.resumed i) + live.count i = word.count (.suspended i) + now.count i := by
  induction word generalizing live with
  | nil =>
    cases replays
    rfl
  | cons beat rest ih =>
    obtain ⟨next, follows, replays⟩ := Option.bind_eq_some_iff.1 replays
    have step := Beat.follow_counts follows i
    have run := ih replays
    rw [← List.singleton_append, List.count_append, List.count_append]
    omega

theorem nodup_of_replay (replays : word.foldlM Beat.follow live = some now)
    (nodup : live.Nodup) : now.Nodup := by
  induction word generalizing live with
  | nil =>
    cases replays
    exact nodup
  | cons beat rest ih =>
    obtain ⟨next, follows, replays⟩ := Option.bind_eq_some_iff.1 replays
    exact ih replays (Beat.follow_nodup follows nodup)

end Replay

/-! ## The calls are paired -/

variable [DecidableEq ι]

/-- The calls of all hooks are nested, and those of each hook come in pairs. -/
structure Beat.Paired (word : List (Beat ι)) : Prop where
  nested : Nested [] word
  /-- A hook that was resumed is suspended, and not called in between. -/
  closed : ∀ i before after, word = before ++ .resumed i :: after →
    ∃ inner rest, after = inner ++ .suspended i :: rest ∧ ∀ beat ∈ inner, beat.hook? ≠ some i
  /-- While code runs, the hooks that have a guard were resumed once more than they were suspended,
  and all others equally often. -/
  balanced : ∀ before now after, word = before ++ .acted now :: after → ∀ i,
    before.count (.resumed i) = before.count (.suspended i) + if i ∈ now then 1 else 0
  even : ∀ i, word.count (.resumed i) = word.count (.suspended i)

theorem Nested.paired {word : List (Beat ι)} (nested : Nested [] word) : Beat.Paired word := by
  have replays := nested.replays
  refine ⟨nested, fun i before after split => ?_, fun before now after split i => ?_, fun i => ?_⟩
  · obtain ⟨live, inner, rest, rfl, -, inside⟩ := nested.closes split
    exact ⟨inner, rest, rfl, inside.not_called List.mem_cons_self⟩
  · rw [split, List.foldlM_append] at replays
    obtain ⟨live, earlier, later⟩ := Option.bind_eq_some_iff.1 replays
    obtain ⟨_, follows, -⟩ := Option.bind_eq_some_iff.1 later
    obtain ⟨rfl, -⟩ := Option.ite_none_right_eq_some.1 follows
    have counts := counts_of_replay earlier i
    have once := nodup_of_replay earlier List.nodup_nil
    rwa [List.count_nil, Nat.add_zero, once.count] at counts
  · have counts := counts_of_replay replays i
    exact counts

/-- Over hooks that do not panic when they are suspended, whatever else they do: a guard whose hook
is resumed runs its body, of any kind, and suspends the hook once, after the body returned or unwound
and before the guard ends in the same way; a guard whose hook panics when it is resumed does neither.
In every program of guards, which catches as it likes, a hook that was resumed is suspended before
the program or a panic goes on, and not called in between. So the calls of all hooks are nested, and
each hook was resumed and suspended equally often whenever no guard over it is there. Nothing is left
undone but for code or a hook that halts. -/
theorem Program.guards_paired {hooks : (i : ι) → Hook σ (η i)}
    (steady : ∀ i, (hooks i).Steady) :
    (∀ (α : Type) i state (body : Action σ α) w s r,
      (hooks i).guarding state body w s = .ok r →
      (hooks i).Guards state body w s r.fate r.world) ∧
    ∀ prog : Program σ η ν [],
      (∀ w s r, prog.exec hooks w s = .ok r →
        ∃ word, r.world.rest.word = s.rest.word ++ word ∧ prog.Adds word r.fate ∧
          Beat.Paired word) ∧
      ((∀ i, (hooks i).Ends) → prog.Ends → ∀ w s, ∃ r, prog.exec hooks w s = .ok r) := by
  refine ⟨fun _ i _ _ _ _ _ ran => (steady i).guards ran, fun prog => ⟨?_, ?_⟩⟩
  · intro w s r ran
    obtain ⟨word, grown, adds⟩ := exec_notes steady prog ran
    exact ⟨word, grown, adds, adds.nested.paired⟩
  · intro ends runs
    exact exec_ends steady ends runs

/-- A body panics under two guards, the panic is caught, and one of the hooks gets a guard again. -/
theorem Program.guards_paired_of_caught :
    ∃ (prog : Program Unit (fun _ : Bool => Hook.Tally) Unit [])
      (r : Ran (Memory Unit fun _ : Bool => Hook.Tally) Unit),
      prog.exec (fun _ => Hook.counting) .main { rest := ⟨(), fun _ => {}, []⟩ } = .ok r ∧
      r.fate = .returned () ∧
      r.world.rest.word = [.resumed true, .resumed false, .suspended false, .suspended true,
        .resumed true, .acted [true], .suspended true] ∧
      prog.Adds r.world.rest.word r.fate ∧ Beat.Paired r.world.rest.word := by
  let prog : Program Unit (fun _ : Bool => Hook.Tally) Unit [] :=
    .catching
      (.guard true List.not_mem_nil
        (.guard false (by decide) (.panic ⟨"boom"⟩) .value) .value)
      fun _ =>
        .guard true List.not_mem_nil (.perform (fun _ => Action.resume (.returned ())) .value) .value
  let start : World (Memory Unit fun _ : Bool => Hook.Tally) := { rest := ⟨(), fun _ => {}, []⟩ }
  have steady (i : Bool) : (Hook.counting : Hook Unit Hook.Tally).Steady := by
    intro tally w s r ran
    cases ran
    exact ⟨_, rfl⟩
  have ends (i : Bool) : (Hook.counting : Hook Unit Hook.Tally).Ends :=
    ⟨fun _ => Action.Ends.pure _, fun _ => Action.Ends.pure _⟩
  have runs : prog.Ends :=
    ⟨⟨⟨trivial, fun _ => trivial⟩, fun _ => trivial⟩, fun _ =>
      ⟨⟨fun _ => Action.Ends.resume _, fun _ => trivial⟩, fun _ => trivial⟩⟩
  obtain ⟨pairs, total⟩ := (guards_paired steady).2 prog
  obtain ⟨r, ran⟩ := total ends runs .main start
  obtain ⟨word, grown, adds, paired⟩ := pairs .main start r ran
  have whole : r.world.rest.word = word := grown
  rw [← whole] at adds paired
  have computed : (prog.exec (fun _ => Hook.counting) .main start).toOption.map
      (fun r => (r.fate, r.world.rest.word)) = some (.returned (), [.resumed true, .resumed false,
        .suspended false, .suspended true, .resumed true, .acted [true], .suspended true]) := by
    decide +kernel
  rw [ran] at computed
  obtain ⟨returned, noted⟩ := Prod.mk.inj (Option.some.inj computed)
  exact ⟨prog, r, ran, returned, noted, adds, paired⟩

end AmbientTx
