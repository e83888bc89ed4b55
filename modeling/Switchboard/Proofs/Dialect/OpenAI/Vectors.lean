import Mathlib.Data.List.Sort
import Mathlib.Data.Prod.Basic
import Switchboard.Dialect.OpenAI.Answer
import Switchboard.Proofs.Json.Objects

/-!
# Vectors in the order of their indices

An answer to an embedding request lists vectors in any order, each with the index of its text.
Putting them in order comes to a good end exactly when the vectors, each with its place, are what
was listed (`ordered_eq_ok_iff`). So there is a response exactly when the indices are those of the
texts, each once, and each vector then stands where its index says (`embedResponse_aligned`).
-/

namespace Switchboard

namespace Json

theorem arr?_get_eq_some_iff {j : Json} {key : String} {items : List Json} :
    (j.get key).arr? = some items ↔ j.member? key = some (.arr items) := by
  rw [get]
  cases j.member? key with
  | none => simp [arr?]
  | some v => cases v <;> simp [arr?]

end Json

namespace OpenAI

/-- The index of an entry at a place: the one it carries, or else the place. -/
def indexAt (position : Nat) (entry : Json) : Nat := (entry.get "index").nat?.getD position

def indices (entries : List Json) : List Nat := entries.mapIdx indexAt

/-- An entry that says its index itself. -/
def Carries (entry : Json) : Prop := (entry.get "index").nat?.isSome

section Ordered

variable {entries : List (Nat × List Float32)} {vectors : List (List Float32)} {i : Nat}
  {v : List Float32}

theorem misplaced?_eq_none_iff : ∀ {is : List Nat} {position : Nat},
    misplaced? position is = none ↔ is = List.range' position is.length
  | [], _ => by simp [misplaced?]
  | i :: is, position => by
    rw [misplaced?, List.length_cons, List.range'_succ, List.cons.injEq]
    split_ifs with hplace
    · rw [misplaced?_eq_none_iff, and_iff_right hplace]
    · simp [hplace]

/-- Vectors with their places before them. -/
def placed (vectors : List (List Float32)) : List (Nat × List Float32) :=
  vectors.zipIdx.map Prod.swap

theorem mem_placed_iff : (i, v) ∈ placed vectors ↔ vectors[i]? = some v := by
  rw [placed, ← List.mk_mem_zipIdx_iff_getElem?, ← Prod.swap_prod_mk,
    List.mem_map_of_injective Prod.swap_injective]

theorem map_fst_placed (vectors : List (List Float32)) :
    (placed vectors).map Prod.fst = List.range vectors.length := by
  rw [placed, List.map_map, List.range_eq_range', ← List.zipIdx_map_snd]
  rfl

theorem map_snd_placed (vectors : List (List Float32)) :
    (placed vectors).map Prod.snd = vectors := by
  rw [placed, List.map_map]
  exact List.zipIdx_map_fst 0 vectors

/-- What stands in which place determines the vectors. -/
theorem eq_of_placed {others : List (List Float32)} (h : (placed others).Perm (placed vectors)) :
    others = vectors :=
  List.ext_getElem? fun i => Option.ext fun v => by
    rw [← mem_placed_iff, h.mem_iff, mem_placed_iff]

theorem eq_placed (h : misplaced? 0 (entries.map Prod.fst) = none) :
    entries = placed (entries.map Prod.snd) := by
  have hplaces := misplaced?_eq_none_iff.1 h
  rw [List.length_map, ← List.range_eq_range', ← List.length_map (f := Prod.snd),
    ← map_fst_placed] at hplaces
  calc entries = ((placed (entries.map Prod.snd)).map Prod.fst).zip (entries.map Prod.snd) :=
        List.zip_of_prod hplaces rfl
    _ = placed (entries.map Prod.snd) :=
        (List.zip_of_prod rfl (map_snd_placed _)).symm

theorem map_fst_mergeSort (h : (entries.map Prod.fst).Perm (List.range entries.length)) :
    (entries.mergeSort fun a b => a.1 ≤ b.1).map Prod.fst = List.range entries.length := by
  have hsorted := @List.pairwise_mergeSort _ (fun a b : Nat × List Float32 => decide (a.1 ≤ b.1))
    (fun a b c hab hbc => by simp only [decide_eq_true_eq] at *; omega)
    (fun a b => by simp only [Bool.or_eq_true, decide_eq_true_eq]; omega) entries
  simp only [decide_eq_true_eq] at hsorted
  have hperm := (List.mergeSort_perm entries fun a b => decide (a.1 ≤ b.1)).map Prod.fst
  exact List.Perm.eq_of_pairwise' (List.pairwise_map.2 hsorted) List.pairwise_le_range
    (hperm.trans h)

theorem perm_placed_of_ordered (h : ordered entries = .ok vectors) :
    entries.Perm (placed vectors) := by
  simp only [ordered] at h
  split at h
  · cases h
  · rename_i hnone
    rw [← Except.ok.inj h, ← eq_placed hnone]
    exact (List.mergeSort_perm _ _).symm

theorem indices_of_placed (h : entries.Perm (placed vectors)) :
    (entries.map Prod.fst).Perm (List.range entries.length) := by
  rw [h.length_eq, ← List.length_map (f := Prod.snd), map_snd_placed, ← map_fst_placed]
  exact h.map Prod.fst

/-- Vectors can be put in order if their indices are the first numbers, each once. -/
theorem exists_ordered_iff : (∃ vectors, ordered entries = .ok vectors) ↔
    (entries.map Prod.fst).Perm (List.range entries.length) := by
  constructor
  · rintro ⟨vectors, h⟩
    exact indices_of_placed (perm_placed_of_ordered h)
  · intro h
    have hnone : misplaced? 0 ((entries.mergeSort fun a b => a.1 ≤ b.1).map Prod.fst) = none := by
      rw [map_fst_mergeSort h, misplaced?_eq_none_iff, List.length_range, List.range_eq_range']
    simp only [ordered, hnone]
    exact ⟨_, rfl⟩

/-- Vectors in order are what was listed, each with its place for an index. -/
theorem ordered_eq_ok_iff : ordered entries = .ok vectors ↔ entries.Perm (placed vectors) := by
  refine ⟨perm_placed_of_ordered, fun h => ?_⟩
  obtain ⟨others, hothers⟩ := exists_ordered_iff.2 (indices_of_placed h)
  rw [hothers, eq_of_placed ((perm_placed_of_ordered hothers).symm.trans h)]

end Ordered

/-- The vectors that entries list, each with its index. -/
def listed (entries : List Json) : Outcome (List (Nat × List Float32)) :=
  entries.zipIdx.mapM fun (entry, position) => indexedVector position entry

section Listed

variable {entries others : List Json} {xs : List (Nat × List Float32)} {position i : Nat}
  {entry : Json} {x : Nat × List Float32} {v : List Float32}

theorem indexedVector_eq_ok_iff : indexedVector position entry = .ok x ↔
    indexAt position entry = x.1 ∧ Embedding.vector? (entry.get "embedding") = some x.2 := by
  unfold indexedVector
  cases Embedding.vector? (entry.get "embedding") with
  | none => simp
  | some vector => simp [indexAt, Prod.ext_iff]

theorem indices_of_listed (h : listed entries = .ok xs) : xs.map Prod.fst = indices entries := by
  rw [indices, List.mapIdx_eq_zipIdx_map]
  exact map_of_mapM (fun _ _ hx => (indexedVector_eq_ok_iff.1 hx).1.symm) h

theorem exists_listed_iff : (∃ xs, listed entries = .ok xs) ↔
    ∀ entry ∈ entries, ∃ v, Embedding.vector? (entry.get "embedding") = some v := by
  have hentries := List.zipIdx_map_fst 0 entries
  rw [listed, exists_mapM_eq_ok_iff]
  conv_rhs => rw [← hentries, List.forall_mem_map]
  refine forall₂_congr fun e _ => ?_
  simp only [indexedVector_eq_ok_iff, Prod.exists]
  exact ⟨fun ⟨_, v, _, hv⟩ => ⟨v, hv⟩, fun ⟨v, hv⟩ => ⟨_, v, rfl, hv⟩⟩

theorem mem_listed_iff (h : listed entries = .ok xs) : (i, v) ∈ xs ↔ ∃ k entry,
    entries[k]? = some entry ∧ indexAt k entry = i
      ∧ Embedding.vector? (entry.get "embedding") = some v := by
  constructor
  · intro hmem
    obtain ⟨⟨entry, k⟩, hentry, hv⟩ := exists_source_of_mapM h hmem
    exact ⟨k, entry, List.mk_mem_zipIdx_iff_getElem?.1 hentry, indexedVector_eq_ok_iff.1 hv⟩
  · rintro ⟨k, entry, hentry, hindex, hv⟩
    have hread : indexedVector k entry = .ok (i, v) := indexedVector_eq_ok_iff.2 ⟨hindex, hv⟩
    obtain ⟨x, hx, hlisted⟩ := exists_result_of_mapM h (List.mk_mem_zipIdx_iff_getElem?.2 hentry)
    rwa [Except.ok.inj (hread.symm.trans hlisted)]

/-- The place of an entry is of no concern if it says its index itself. -/
theorem indexedVector_of_carries (h : Carries entry) (position : Nat) :
    indexedVector position entry = indexedVector 0 entry := by
  obtain ⟨index, hindex⟩ := Option.isSome_iff_exists.1 h
  simp [indexedVector, hindex]

theorem mapM_of_carries : ∀ {entries : List Json} (start : Nat), (∀ e ∈ entries, Carries e) →
    ((entries.zipIdx start).mapM fun (entry, position) => indexedVector position entry) =
      entries.mapM (indexedVector 0)
  | [], _, _ => rfl
  | e :: entries, start, h => by
    obtain ⟨he, hrest⟩ := List.forall_mem_cons.1 h
    simp only [List.zipIdx_cons, List.mapM_cons, mapM_of_carries (start + 1) hrest,
      indexedVector_of_carries he start]

theorem listed_of_perm (hcarry : ∀ e ∈ entries, Carries e) (hperm : entries.Perm others)
    (h : listed entries = .ok xs) : ∃ ys, listed others = .ok ys ∧ xs.Perm ys := by
  have hothers : ∀ e ∈ others, Carries e := fun e he => hcarry e (hperm.mem_iff.2 he)
  rw [listed, mapM_of_carries 0 hcarry] at h
  rw [listed, mapM_of_carries 0 hothers]
  exact exists_mapM_of_perm hperm h

end Listed

section Answer

variable {r : EmbedRequest} {answer other : Json} {response : EmbedResponse}
  {entries others : List Json} {n : Nat}

theorem ensureAligned_eq_ok_iff {given : EmbedResponse} :
    given.ensureAligned n = .ok response ↔ given.embeddings.length = n ∧ given = response := by
  unfold EmbedResponse.ensureAligned
  split_ifs with hlength <;> simp [hlength]

theorem embedResponse_eq_ok_iff : embedResponse r answer = .ok response ↔ ∃ entries xs vectors,
    answer.member? "data" = some (.arr entries) ∧ listed entries = .ok xs
      ∧ xs.Perm (placed vectors) ∧ vectors.length = r.contents.length
      ∧ response = ⟨r.requestId, r.model, vectors, usage? answer⟩ := by
  simp only [← Json.arr?_get_eq_some_iff, embedResponse]
  cases (answer.get "data").arr? with
  | none => simp
  | some entries =>
    simp only [bind_eq_ok_iff, ordered_eq_ok_iff, ensureAligned_eq_ok_iff, Option.some.injEq,
      exists_and_left, exists_eq_left', listed, eq_comm (a := response)]

/-- Entries that say their indices themselves may come in any order. -/
theorem embedResponse_of_perm (hcarry : ∀ e ∈ entries, Carries e) (hperm : entries.Perm others)
    (hdata : answer.member? "data" = some (.arr entries))
    (hother : other.member? "data" = some (.arr others)) (husage : usage? other = usage? answer)
    (h : embedResponse r answer = .ok response) : embedResponse r other = .ok response := by
  obtain ⟨_, xs, vectors, hsame, hxs, hplaced, hlength, rfl⟩ := embedResponse_eq_ok_iff.1 h
  obtain rfl := Json.arr.inj (Option.some.inj (hdata.symm.trans hsame))
  obtain ⟨ys, hys, hxys⟩ := listed_of_perm hcarry hperm hxs
  rw [embedResponse_eq_ok_iff]
  exact ⟨others, ys, vectors, hother, hys, hxys.symm.trans hplaced, hlength, by rw [husage]⟩

theorem exists_embedResponse_iff : (∃ response, embedResponse r answer = .ok response) ↔
    ∃ entries, answer.member? "data" = some (.arr entries)
      ∧ (∀ entry ∈ entries, ∃ v, Embedding.vector? (entry.get "embedding") = some v)
      ∧ (indices entries).Perm (List.range r.contents.length) := by
  have hcount : ∀ {entries : List Json}, (indices entries).length = entries.length :=
    List.length_mapIdx
  simp only [embedResponse_eq_ok_iff, ← exists_listed_iff]
  constructor
  · rintro ⟨_, entries, xs, vectors, hdata, hxs, hplaced, hlength, -⟩
    refine ⟨entries, hdata, ⟨xs, hxs⟩, ?_⟩
    rw [← indices_of_listed hxs, ← hlength, ← map_fst_placed]
    exact hplaced.map Prod.fst
  · rintro ⟨entries, hdata, ⟨xs, hxs⟩, hindices⟩
    rw [← indices_of_listed hxs] at hindices
    have hlength : xs.length = r.contents.length := by
      simpa using hindices.length_eq
    rw [← hlength] at hindices
    obtain ⟨vectors, hvectors⟩ := exists_ordered_iff.2 hindices
    have hplaced := ordered_eq_ok_iff.1 hvectors
    refine ⟨_, entries, xs, vectors, hdata, hxs, hplaced, ?_, rfl⟩
    rw [← hlength, hplaced.length_eq, ← List.length_map (f := Prod.snd), map_snd_placed]

/-- There is a response exactly when the entries hold vectors and their indices are those of the
texts, each once. Then each vector stands where its index says. Entries that all carry their indices
may come in any order. -/
theorem embedResponse_aligned (r : EmbedRequest) (answer : Json) :
    ((∃ response, embedResponse r answer = .ok response) ↔
      ∃ entries, answer.member? "data" = some (.arr entries)
        ∧ (∀ entry ∈ entries, ∃ v, Embedding.vector? (entry.get "embedding") = some v)
        ∧ (indices entries).Perm (List.range r.contents.length))
    ∧ ∀ entries, answer.member? "data" = some (.arr entries) →
      (∀ response, embedResponse r answer = .ok response →
        response.embeddings.length = r.contents.length
        ∧ ∀ i v, response.embeddings[i]? = some v ↔ ∃ position entry,
          entries[position]? = some entry ∧ indexAt position entry = i
            ∧ Embedding.vector? (entry.get "embedding") = some v)
      ∧ ((∀ entry ∈ entries, Carries entry) → ∀ others, entries.Perm others → ∀ response,
        embedResponse r (answer.insert "data" (.arr others)) = .ok response ↔
          embedResponse r answer = .ok response) := by
  refine ⟨exists_embedResponse_iff, fun entries hdata => ⟨fun response h => ?_,
    fun hcarry others hperm response => ?_⟩⟩
  · obtain ⟨_, xs, vectors, hsame, hxs, hplaced, hlength, rfl⟩ := embedResponse_eq_ok_iff.1 h
    obtain rfl := Json.arr.inj (Option.some.inj (hdata.symm.trans hsame))
    refine ⟨hlength, fun i v => ?_⟩
    rw [← mem_placed_iff, ← hplaced.mem_iff, mem_listed_iff hxs]
  · have hother := Json.member?_insert_self (v := .arr others) hdata
    have husage : usage? (answer.insert "data" (.arr others)) = usage? answer := by
      rw [usage?, usage?, Json.get, Json.get, Json.member?_insert_of_ne (by decide)]
    have hothers : ∀ entry ∈ others, Carries entry := fun e he => hcarry e (hperm.mem_iff.2 he)
    exact ⟨embedResponse_of_perm hothers hperm.symm hother hdata husage.symm,
      embedResponse_of_perm hcarry hperm hdata hother husage⟩

end Answer

section Pair

/-- An answer with two vectors, which may carry their indices. -/
def pairAnswer (first second : Option Nat) : Json := .mkObj [("data", .arr [
  .record [("index", first.map .nat), ("embedding", some (.arr [.nat 3, .nat 4]))],
  .record [("index", second.map .nat), ("embedding", some (.arr [.nat 1, .nat 2]))]])]

def pairRequest : EmbedRequest := ⟨none, "text-embedding-3-small", ["a", "b"]⟩

/-- Two vectors that come in the wrong order are put right. If the second carries no index it has
that of the first, and there is no response. -/
theorem pair_aligned :
    (∃ entries response, (pairAnswer (some 1) (some 0)).member? "data" = some (.arr entries)
      ∧ embedResponse pairRequest (pairAnswer (some 1) (some 0)) = .ok response
      ∧ response.embeddings.length = 2
      ∧ response.embeddings[0]? = some [(Number.whole 1).toSingle, (Number.whole 2).toSingle]
      ∧ embedResponse pairRequest
        ((pairAnswer (some 1) (some 0)).insert "data" (.arr entries.reverse)) = .ok response)
    ∧ ¬∃ response, embedResponse pairRequest (pairAnswer (some 1) none) = .ok response := by
  obtain ⟨hexists, hentries⟩ := embedResponse_aligned pairRequest (pairAnswer (some 1) (some 0))
  constructor
  · obtain ⟨response, hresponse⟩ := hexists.2 ⟨_, rfl,
      List.forall_mem_cons.2 ⟨⟨_, rfl⟩, List.forall_mem_singleton.2 ⟨_, rfl⟩⟩, by decide +kernel⟩
    obtain ⟨hvectors, hreorder⟩ := hentries _ rfl
    obtain ⟨hlength, hplaces⟩ := hvectors response hresponse
    refine ⟨_, response, rfl, hresponse, hlength, ?_, ?_⟩
    · exact (hplaces 0 _).2 ⟨1, _, rfl, rfl, rfl⟩
    · refine (hreorder ?_ _ (List.reverse_perm _).symm response).2 hresponse
      exact List.forall_mem_cons.2 ⟨rfl, List.forall_mem_singleton.2 rfl⟩
  · rw [(embedResponse_aligned pairRequest (pairAnswer (some 1) none)).1]
    rintro ⟨entries, hdata, -, hindices⟩
    obtain rfl := Json.arr.inj (Option.some.inj hdata)
    revert hindices
    decide +kernel

end Pair

end OpenAI

end Switchboard
