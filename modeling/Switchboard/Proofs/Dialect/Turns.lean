import Mathlib.Data.List.Destutter
import Mathlib.Data.List.Forall2
import Switchboard.Chat.Message
import Switchboard.Dialect.Turns

/-!
# Turns that alternate

Merging cuts a list of turns into runs of one role and makes one turn of each run, which says what
the run says (`Turn.exists_runs`). So the roles of merged turns are the roles in their order with
equal neighbours left out (`Turn.map_role_merge`), and nothing that was said is lost or moved
(`Turn.flatMap_blocks_merge`). A conversation that is arranged this way, with what the system says
apart, keeps every block of every message (`Arranged`).
-/

namespace Switchboard

namespace Turn

/-- A turn says what a run of turns of its role says. -/
structure Joins (t : Turn) (run : List Turn) : Prop where
  nonempty : run ≠ []
  role : ∀ u ∈ run, u.role = t.role
  blocks : t.blocks = run.flatMap Turn.blocks

theorem cons_cons (t u : Turn) (rest : List Turn) : cons t (u :: rest) =
    if t.role = u.role then ⟨t.role, t.blocks ++ u.blocks⟩ :: rest else t :: u :: rest :=
  rfl

/-- The first of merged turns has the role of the first turn. -/
theorem exists_merge_cons (t : Turn) (ts : List Turn) :
    ∃ blocks rest, merge (t :: ts) = ⟨t.role, blocks⟩ :: rest := by
  rw [merge]
  rcases merge ts with _ | ⟨u, rest⟩
  · exact ⟨t.blocks, [], rfl⟩
  · rw [cons_cons]
    split_ifs
    · exact ⟨t.blocks ++ u.blocks, rest, rfl⟩
    · exact ⟨t.blocks, u :: rest, rfl⟩

theorem exists_runs : ∀ ts : List Turn,
    ∃ runs : List (List Turn), runs.flatten = ts ∧ List.Forall₂ Joins (merge ts) runs
  | [] => ⟨[], rfl, .nil⟩
  | t :: ts => by
    obtain ⟨runs, hflat, hjoins⟩ := exists_runs ts
    have hself : Joins t [t] := ⟨by simp, by simp, by simp⟩
    rw [merge]
    rcases hmerge : merge ts with _ | ⟨u, rest⟩
    · rw [hmerge, List.forall₂_nil_left_iff] at hjoins
      subst hjoins
      exact ⟨[[t]], by simp [← hflat], .cons hself .nil⟩
    rw [hmerge] at hjoins
    obtain ⟨run, runs, hu, hrest, rfl⟩ := List.forall₂_cons_left_iff.1 hjoins
    rw [cons_cons]
    split_ifs with hrole
    · -- the turn goes into the first run
      refine ⟨(t :: run) :: runs, by simp [← hflat], .cons ⟨by simp, ?_, ?_⟩ hrest⟩
      · intro v hv
        rcases List.mem_cons.1 hv with rfl | hv
        · rfl
        · exact (hu.role v hv).trans hrole.symm
      · simp [hu.blocks]
    · exact ⟨[t] :: run :: runs, by simp [← hflat], .cons hself hjoins⟩

theorem map_role_merge : ∀ ts : List Turn,
    (merge ts).map Turn.role = (ts.map Turn.role).destutter (· ≠ ·)
  | [] => rfl
  | [t] => rfl
  | t :: u :: ts => by
    have ih := map_role_merge (u :: ts)
    obtain ⟨blocks, rest, hmerge⟩ := exists_merge_cons u ts
    rw [hmerge, List.map_cons, List.map_cons] at ih
    rw [merge, hmerge, cons_cons, List.map_cons, List.map_cons, List.destutter_cons_cons]
    by_cases heq : t.role = u.role
    · rw [if_pos heq, if_neg (not_not.2 heq), List.map_cons, heq]
      exact ih
    · rw [if_neg heq, if_pos heq, List.map_cons, List.map_cons]
      exact congrArg (t.role :: ·) ih

/-- No two neighbours among merged turns have one role. -/
theorem isChain_merge (ts : List Turn) : ((merge ts).map Turn.role).IsChain (· ≠ ·) := by
  rw [map_role_merge]
  exact List.isChain_destutter _ _

theorem flatMap_blocks_of_joins {turns : List Turn} {runs : List (List Turn)}
    (h : List.Forall₂ Joins turns runs) :
    turns.flatMap Turn.blocks = runs.flatten.flatMap Turn.blocks := by
  induction h with
  | nil => rfl
  | cons ht _ ih => rw [List.flatMap_cons, List.flatten_cons, List.flatMap_append, ih, ht.blocks]

theorem flatMap_blocks_merge (ts : List Turn) :
    (merge ts).flatMap Turn.blocks = ts.flatMap Turn.blocks := by
  obtain ⟨runs, hflat, hjoins⟩ := exists_runs ts
  rw [flatMap_blocks_of_joins hjoins, hflat]

/-- The turns of one role are made of the runs of that role. -/
theorem exists_runs_filter {turns : List Turn} {runs : List (List Turn)}
    (h : List.Forall₂ Joins turns runs) (role : String) :
    ∃ kept : List (List Turn), kept.flatten = runs.flatten.filter (·.role = role)
      ∧ List.Forall₂ Joins (turns.filter (·.role = role)) kept := by
  induction h with
  | nil => exact ⟨[], rfl, .nil⟩
  | @cons t run turns runs ht _ ih =>
    obtain ⟨kept, hflat, hjoins⟩ := ih
    rw [List.flatten_cons, List.filter_append, ← hflat]
    by_cases hrole : t.role = role
    · have hall : run.filter (·.role = role) = run :=
        List.filter_eq_self.2 fun u hu => by simp [ht.role u hu, hrole]
      refine ⟨run :: kept, by rw [hall, List.flatten_cons], ?_⟩
      rw [List.filter_cons_of_pos (by simpa using hrole)]
      exact .cons ht hjoins
    · have hnone : run.filter (·.role = role) = [] :=
        List.filter_eq_nil_iff.2 fun u hu => by simp [ht.role u hu, hrole]
      refine ⟨kept, by rw [hnone, List.nil_append], ?_⟩
      rwa [List.filter_cons_of_neg (by simpa using hrole)]

end Turn

/-- The role on the wire of what a message says, where the model speaks as `speaker`. What the
system says has none. -/
def Role.wire? (speaker : String) : Role → Option String
  | .system => none
  | .user | .tool => some "user"
  | .assistant => some speaker

/-- One turn for each message that is not the system's, from its role and its blocks. -/
def Turn.spoken (speaker : String) (said : List (Role × List Json)) : List Turn :=
  said.filterMap fun s => (s.1.wire? speaker).map fun role => ⟨role, s.2⟩

/-- The blocks of messages go over the wire as they were said: those of the system apart, the others
in turns that alternate, each of which is one run of messages with one role on the wire. -/
structure Arranged (speaker : String) (said : List (Role × List Json)) (system : List Json)
    (turns : List Turn) : Prop where
  system : system = (said.filter (·.1 = .system)).flatMap Prod.snd
  alternating : (turns.map Turn.role).IsChain (· ≠ ·)
  roles : turns.map Turn.role = (said.filterMap (·.1.wire? speaker)).destutter (· ≠ ·)
  blocks : turns.flatMap Turn.blocks = (said.filter (·.1 ≠ .system)).flatMap Prod.snd
  runs : ∃ runs : List (List Turn), runs.flatten = Turn.spoken speaker said
    ∧ List.Forall₂ Turn.Joins turns runs

theorem flatten_system (said : List (Role × List Json)) :
    (said.filterMap fun (role, blocks) => if role = .system then some blocks else none).flatten =
      (said.filter (·.1 = .system)).flatMap Prod.snd := by
  induction said with
  | nil => rfl
  | cons s rest ih => by_cases hs : s.1 = .system <;> simp [hs, ih]

section Spoken

variable (speaker : String)

variable {speaker} in
theorem filterMap_eq_spoken {turnRole? : Role → Option String}
    (h : ∀ role, turnRole? role = role.wire? speaker) (said : List (Role × List Json)) :
    (said.filterMap fun (role, blocks) =>
      (turnRole? role).map fun role => (⟨role, blocks⟩ : Turn)) = Turn.spoken speaker said :=
  List.filterMap_congr fun s _ => congrArg (Option.map _) (h s.1)

theorem map_role_spoken (said : List (Role × List Json)) :
    (Turn.spoken speaker said).map Turn.role = said.filterMap (·.1.wire? speaker) := by
  rw [Turn.spoken, List.map_filterMap]
  refine List.filterMap_congr fun s _ => ?_
  cases s.1.wire? speaker <;> rfl

theorem flatMap_blocks_spoken : ∀ said : List (Role × List Json),
    (Turn.spoken speaker said).flatMap Turn.blocks =
      (said.filter (·.1 ≠ .system)).flatMap Prod.snd
  | [] => rfl
  | (.system, _) :: said => flatMap_blocks_spoken said
  | (.user, blocks) :: said | (.assistant, blocks) :: said | (.tool, blocks) :: said =>
    congrArg (blocks ++ ·) (flatMap_blocks_spoken said)

theorem arranged_merge (said : List (Role × List Json)) :
    Arranged speaker said ((said.filter (·.1 = .system)).flatMap Prod.snd)
      (Turn.merge (Turn.spoken speaker said)) where
  system := rfl
  alternating := Turn.isChain_merge _
  roles := by rw [Turn.map_role_merge, map_role_spoken]
  blocks := by rw [Turn.flatMap_blocks_merge, flatMap_blocks_spoken]
  runs := Turn.exists_runs _

end Spoken

end Switchboard
