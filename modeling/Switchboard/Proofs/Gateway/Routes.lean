import Mathlib.Data.List.Nodup
import Switchboard.Router

/-!
# Where a router leads

What providers advertise makes one list of routes in the order of registration
(`Router.offers`), and a directory is what is left of it when each route is entered unless its id is
taken (`Router.advertiseAll_fst`). A directory stays consistent on the way: its table and its list
name the same models, no id twice (`Directory.Consistent`). The table finds the first route of an id
(`Directory.find?_enterAll`) and the list has the first model of each
(`Directory.models_enterAll`), so a model resolves to the first provider that advertises it
(`Router.ofProviders_routes`), which is the one that the records of later ones name
(`Router.mem_log_ofProviders`).
-/

namespace Switchboard

/-- The models of a list, but for those with the id of one before them. -/
def Model.firsts (models : List Model) : List Model :=
  models.eraseDupsBy fun later earlier => later.id == earlier.id

theorem Model.firsts_cons (m : Model) (ms : List Model) :
    firsts (m :: ms) = m :: firsts (ms.filter fun n => n.id ≠ m.id) := by
  simp only [firsts, List.eraseDupsBy_cons, ne_eq, decide_not, beq_eq_false_iff_ne]

namespace Directory

/-- The directory with a route entered, unless its id is taken. -/
def enter (d : Directory) (route : Route) : Directory :=
  if (d.find? route.model.id).isSome then d else d.add route

def enterAll (d : Directory) (routes : List Route) : Directory := routes.foldl enter d

variable {d : Directory} {route : Route}

theorem enter_of_taken (h : (d.find? route.model.id).isSome = true) : d.enter route = d :=
  if_pos h

theorem enter_of_free (h : d.find? route.model.id = none) : d.enter route = d.add route := by
  simp [enter, h]

theorem enterAll_append (d : Directory) (before after : List Route) :
    d.enterAll (before ++ after) = (d.enterAll before).enterAll after :=
  List.foldl_append

/-- Table and list name the same models, no id twice. -/
structure Consistent (d : Directory) : Prop where
  named : ∀ id route, d.find? id = some route → route.model.id = id
  listed : ∀ m, m ∈ d.models ↔ ∃ route, d.find? m.id = some route ∧ route.model = m
  nodup : (d.models.map (·.id)).Nodup

theorem consistent_empty : empty.Consistent where
  named _ _ h := by simp at h
  listed m := by simp
  nodup := List.nodup_nil

theorem Consistent.add (h : d.Consistent) (hfree : d.find? route.model.id = none) :
    (d.add route).Consistent where
  named id r hr := by
    rw [find?_add] at hr
    split_ifs at hr with hid
    · rw [← Option.some.inj hr, hid]
    · exact h.named id r hr
  listed m := by
    rw [models_add, List.mem_append, List.mem_singleton, h.listed, find?_add]
    constructor
    · rintro (⟨r, hr, rfl⟩ | rfl)
      · have hid : r.model.id ≠ route.model.id := fun hid => by simp [hid, hfree] at hr
        exact ⟨r, by rw [if_neg hid, hr], rfl⟩
      · exact ⟨route, if_pos rfl, rfl⟩
    · rintro ⟨r, hr, rfl⟩
      split_ifs at hr with hid
      · exact .inr (congrArg Route.model (Option.some.inj hr).symm)
      · exact .inl ⟨r, hr, rfl⟩
  nodup := by
    have hnew : route.model.id ∉ d.models.map (·.id) := fun hmem => by
      obtain ⟨m, hm, hid⟩ := List.mem_map.1 hmem
      obtain ⟨r, hr, -⟩ := (h.listed m).1 hm
      simp [hid, hfree] at hr
    rw [models_add, List.map_append, List.map_singleton]
    exact h.nodup.append (List.nodup_singleton _) (by simpa using hnew)

theorem Consistent.enter (h : d.Consistent) (route : Route) : (d.enter route).Consistent := by
  rcases hfind : d.find? route.model.id with _ | r
  · rw [enter_of_free hfind]
    exact h.add hfind
  · rwa [enter_of_taken (by simp [hfind])]

theorem Consistent.enterAll : ∀ {routes : List Route} {d : Directory}, d.Consistent →
    (d.enterAll routes).Consistent
  | [], _, h => h
  | route :: _, _, h => (h.enter route).enterAll

/-- The table finds what it had, or else the first route of the id. -/
theorem find?_enterAll (id : String) : ∀ (routes : List Route) (d : Directory),
    (d.enterAll routes).find? id = (d.find? id).or (routes.find? fun r => r.model.id == id)
  | [], d => by simp [Directory.enterAll]
  | route :: routes, d => by
    show ((d.enter route).enterAll routes).find? id = _
    rw [find?_enterAll id routes]
    by_cases hid : id = route.model.id
    · rw [List.find?_cons_of_pos (by simp [hid]), hid]
      rcases hfind : d.find? route.model.id with _ | r
      · simp [enter_of_free hfind, find?_add]
      · simp [enter_of_taken, hfind]
    · rw [List.find?_cons_of_neg (by simpa using Ne.symm hid)]
      rcases hfind : d.find? route.model.id with _ | r
      · rw [enter_of_free hfind, find?_add, if_neg hid]
      · rw [enter_of_taken (by simp [hfind])]

theorem models_enterAll : ∀ (routes : List Route) (d : Directory),
    (d.enterAll routes).models = d.models
      ++ Model.firsts ((routes.map (·.model)).filter fun m => (d.find? m.id).isNone)
  | [], d => by simp [Directory.enterAll, Model.firsts, List.eraseDupsBy, List.eraseDupsBy.loop]
  | route :: routes, d => by
    show ((d.enter route).enterAll routes).models = _
    rw [models_enterAll routes, List.map_cons]
    rcases hfind : d.find? route.model.id with _ | r
    · have hkept : (route.model :: routes.map (·.model)).filter (fun m => (d.find? m.id).isNone)
          = route.model :: (routes.map (·.model)).filter fun m => (d.find? m.id).isNone :=
        List.filter_cons_of_pos (by simp [hfind])
      have hleft : (fun m : Model => ((d.add route).find? m.id).isNone)
          = fun m => decide (m.id ≠ route.model.id) && (d.find? m.id).isNone := by
        funext m
        rw [find?_add]
        by_cases hid : m.id = route.model.id <;> simp [hid]
      rw [enter_of_free hfind, models_add, hkept, Model.firsts_cons, List.filter_filter, hleft,
        List.append_assoc, List.singleton_append]
    · rw [enter_of_taken (by simp [hfind]), List.filter_cons_of_neg (by simp [hfind])]

end Directory

namespace Router

/-- What providers advertise, the first of them at `place`. -/
def offers (place : Nat) : List Provider → List Route
  | [] => []
  | p :: rest => p.models.map (⟨·, place⟩) ++ offers (place + 1) rest

theorem map_model_offers : ∀ (place : Nat) (ps : List Provider),
    (offers place ps).map (·.model) = ps.flatMap (·.models)
  | _, [] => rfl
  | place, p :: ps => by
    simp [offers, map_model_offers (place + 1) ps, Function.comp_def]

theorem mem_offers {route : Route} : ∀ {place : Nat} {ps : List Provider},
    route ∈ offers place ps ↔
      ∃ i p, ps[i]? = some p ∧ route.provider = place + i ∧ route.model ∈ p.models
  | _, [] => by simp [offers]
  | place, p :: ps => by
    rw [offers, List.mem_append, List.mem_map, mem_offers]
    constructor
    · rintro (⟨m, hm, rfl⟩ | ⟨i, q, hq, hplace, hm⟩)
      · exact ⟨0, p, rfl, rfl, hm⟩
      · exact ⟨i + 1, q, hq, by omega, hm⟩
    · rintro ⟨_ | i, q, hq, hplace, hm⟩
      · obtain rfl : p = q := by simpa using hq
        exact .inl ⟨route.model, hm, by rw [← Nat.add_zero place, ← hplace]⟩
      · exact .inr ⟨i, q, hq, by omega, hm⟩

/-- The routes of one provider come before those of the next. -/
theorem pairwise_offers : ∀ (place : Nat) (ps : List Provider),
    (offers place ps).Pairwise fun a b => a.provider ≤ b.provider
  | _, [] => .nil
  | place, p :: ps => by
    rw [offers, List.pairwise_append]
    refine ⟨List.pairwise_map.2 (List.pairwise_of_forall fun _ _ => Nat.le_refl place),
      pairwise_offers (place + 1) ps, fun a ha b hb => ?_⟩
    obtain ⟨m, -, rfl⟩ := List.mem_map.1 ha
    obtain ⟨i, -, -, hplace, -⟩ := mem_offers.1 hb
    show place ≤ b.provider
    omega

theorem advertise_fst (families : List String) (place : Nat) : ∀ (ms : List Model)
    (d : Directory), (advertise families place d ms).1 = d.enterAll (ms.map (⟨·, place⟩))
  | [], _ => rfl
  | m :: ms, d => by
    show _ = (d.enter ⟨m, place⟩).enterAll _
    unfold advertise
    rcases hfind : d.find? m.id with _ | served
    · rw [Directory.enter_of_free hfind]
      exact advertise_fst families place ms _
    · rw [Directory.enter_of_taken (by simp [hfind])]
      exact advertise_fst families place ms d

theorem advertiseAll_fst (families : List String) : ∀ (ps : List Provider) (place : Nat)
    (d : Directory), (advertiseAll families place d ps).1 = d.enterAll (offers place ps)
  | [], _, _ => rfl
  | p :: ps, place, d => by
    rw [offers, Directory.enterAll_append, ← advertise_fst families]
    exact advertiseAll_fst families ps (place + 1) _

/-- What is logged about a model names the provider that the directory has for it in the end. -/
theorem advertise_snd {families : List String} {place : Nat} {record : LogRecord} :
    ∀ {ms : List Model} {d : Directory}, record ∈ (advertise families place d ms).2 →
      ∃ m ∈ ms, ∃ served, (d.enterAll (ms.map (⟨·, place⟩))).find? m.id = some served
        ∧ record = advertisedTwice m (families[place]?.getD "")
          (families[served.provider]?.getD "")
  | [], _, h => by simp [advertise] at h
  | m :: ms, d, h => by
    show ∃ n ∈ m :: ms, ∃ served,
      ((d.enter ⟨m, place⟩).enterAll (ms.map (⟨·, place⟩))).find? n.id = some served ∧ _
    unfold advertise at h
    rcases hfind : d.find? m.id with _ | served <;> rw [hfind] at h
    · rw [Directory.enter_of_free hfind]
      obtain ⟨n, hn, hserved⟩ := advertise_snd h
      exact ⟨n, List.mem_cons_of_mem m hn, hserved⟩
    · rw [Directory.enter_of_taken (by simp [hfind])]
      rcases List.mem_cons.1 h with rfl | h
      · exact ⟨m, List.mem_cons_self, served, by simp [Directory.find?_enterAll, hfind], rfl⟩
      · obtain ⟨n, hn, hserved⟩ := advertise_snd h
        exact ⟨n, List.mem_cons_of_mem m hn, hserved⟩

theorem advertiseAll_snd {families : List String} {record : LogRecord} :
    ∀ {ps : List Provider} {place : Nat} {d : Directory},
      record ∈ (advertiseAll families place d ps).2 →
        ∃ i p, ps[i]? = some p ∧ ∃ m ∈ p.models, ∃ served,
          (d.enterAll (offers place ps)).find? m.id = some served
            ∧ record = advertisedTwice m (families[place + i]?.getD "")
              (families[served.provider]?.getD "")
  | [], _, _, h => by simp [advertiseAll] at h
  | p :: ps, place, d, h => by
    rw [offers, Directory.enterAll_append]
    rcases List.mem_append.1 h with h | h
    · obtain ⟨m, hm, served, hfind, hrecord⟩ := advertise_snd h
      exact ⟨0, p, rfl, m, hm, served, by simp [Directory.find?_enterAll, hfind], hrecord⟩
    · rw [advertise_fst] at h
      obtain ⟨i, q, hq, m, hm, served, hfind, hrecord⟩ := advertiseAll_snd h
      exact ⟨i + 1, q, hq, m, hm, served, hfind, by rw [hrecord, Nat.add_right_comm]; rfl⟩

theorem toDirectory_ofProviders (ps : List Provider) :
    (ofProviders ps).1.toDirectory = Directory.empty.enterAll (offers 0 ps) :=
  advertiseAll_fst _ ps 0 .empty

theorem find?_ofProviders (ps : List Provider) (id : String) :
    (ofProviders ps).1.find? id = (offers 0 ps).find? fun r => r.model.id == id := by
  rw [toDirectory_ofProviders, Directory.find?_enterAll, Directory.find?_empty, Option.none_or]

/-- A model that is found is advertised by the provider at the place of its route, and by none
before. -/
theorem first_of_find? {ps : List Provider} {id : String} {route : Route}
    (h : (ofProviders ps).1.find? id = some route) :
    (∃ p, ps[route.provider]? = some p ∧ route.model ∈ p.models)
      ∧ ∀ i p, i < route.provider → ps[i]? = some p → ∀ m ∈ p.models, m.id ≠ id := by
  rw [find?_ofProviders, List.find?_eq_some_iff_append] at h
  obtain ⟨-, before, after, hsplit, hbefore⟩ := h
  have hmem : route ∈ offers 0 ps := by simp [hsplit]
  obtain ⟨i, p, hp, hplace, hm⟩ := mem_offers.1 hmem
  rw [Nat.zero_add] at hplace
  refine ⟨⟨p, hplace ▸ hp, hm⟩, fun j q hj hq m hmq hid => ?_⟩
  -- The route of `m` stands before `route`, since its provider does.
  have hoffer : (⟨m, j⟩ : Route) ∈ offers 0 ps := mem_offers.2 ⟨j, q, hq, by simp, hmq⟩
  have hsorted := pairwise_offers 0 ps
  rw [hsplit] at hoffer hsorted
  rcases List.mem_append.1 hoffer with hfirst | hlater
  · simpa [hid] using hbefore _ hfirst
  · rcases List.mem_cons.1 hlater with heq | hafter
    · rw [← heq] at hj
      exact Nat.lt_irrefl j hj
    · have hle := (List.pairwise_cons.1 (List.pairwise_append.1 hsorted).2.1).1 _ hafter
      exact Nat.not_le_of_lt hj hle

theorem resolve_ofProviders {ps : List Provider} {id : String} {p : Provider} {route : Route} :
    (ofProviders ps).1.resolve id = .ok (p, route) ↔
      (ofProviders ps).1.find? id = some route ∧ ps[route.provider]? = some p := by
  unfold resolve
  rcases hfind : (ofProviders ps).1.find? id with _ | found
  · simp
  · obtain ⟨⟨q, hq, -⟩, -⟩ := first_of_find? hfind
    have hproviders : (ofProviders ps).1.providers[found.provider]? = some q := hq
    simp only [hproviders, Except.ok.injEq, Prod.mk.injEq, Option.some.injEq]
    constructor
    · rintro ⟨rfl, rfl⟩
      exact ⟨rfl, hq⟩
    · rintro ⟨rfl, hp⟩
      exact ⟨Option.some.inj (hq.symm.trans hp), rfl⟩

/-- Each record from the making of a router is about a model that some provider before, or the same
one, advertises too, and names the provider that the model resolves to. -/
theorem mem_log_ofProviders {ps : List Provider} {record : LogRecord}
    (h : record ∈ (ofProviders ps).2) :
    ∃ i p, ps[i]? = some p ∧ ∃ m ∈ p.models, ∃ q route,
      (ofProviders ps).1.resolve m.id = .ok (q, route) ∧ route.provider ≤ i
        ∧ record = advertisedTwice m p.family.name q.family.name := by
  obtain ⟨i, p, hp, m, hm, route, hfind, hrecord⟩ := advertiseAll_snd h
  rw [← toDirectory_ofProviders] at hfind
  obtain ⟨⟨q, hq, -⟩, hfirst⟩ := first_of_find? hfind
  refine ⟨i, p, hp, m, hm, q, route, resolve_ofProviders.2 ⟨hfind, hq⟩, ?_, ?_⟩
  · by_contra hlt
    exact hfirst i p (Nat.lt_of_not_le hlt) hp m hm rfl
  · rw [hrecord]
    simp [hp, hq]

/-- The models of a router are those its providers advertise, in the order of registration, each id
once. A model resolves if some provider advertises it, to the entry of the list with its id and the
first provider that advertises it. -/
theorem ofProviders_routes (ps : List Provider) :
    let router := (ofProviders ps).1
    router.models = Model.firsts (ps.flatMap (·.models))
      ∧ (router.models.map (·.id)).Nodup
      ∧ (∀ id, (∃ p route, router.resolve id = .ok (p, route)) ↔
          ∃ p ∈ ps, ∃ m ∈ p.models, m.id = id)
      ∧ ∀ id p route, router.resolve id = .ok (p, route) →
          (∀ m, m ∈ router.models ∧ m.id = id ↔ m = route.model)
            ∧ route.provider < ps.length
            ∧ ps[route.provider]? = some p
            ∧ (∃ m ∈ p.models, m.id = id)
            ∧ ∀ i q, i < route.provider → ps[i]? = some q → ∀ m ∈ q.models, m.id ≠ id := by
  have hconsistent : (ofProviders ps).1.Consistent := by
    rw [toDirectory_ofProviders]
    exact Directory.consistent_empty.enterAll
  refine ⟨?_, hconsistent.nodup, fun id => ⟨?_, ?_⟩, fun id p route h => ?_⟩
  · rw [toDirectory_ofProviders, Directory.models_enterAll, map_model_offers]
    simp
  · rintro ⟨p, route, h⟩
    obtain ⟨hfind, hp⟩ := resolve_ofProviders.1 h
    obtain ⟨⟨q, hq, hm⟩, -⟩ := first_of_find? hfind
    exact ⟨q, List.mem_of_getElem? hq, route.model, hm, hconsistent.named id route hfind⟩
  · rintro ⟨p, hp, m, hm, hid⟩
    obtain ⟨i, hi⟩ := List.mem_iff_getElem?.1 hp
    have hoffer : (⟨m, i⟩ : Route) ∈ offers 0 ps := mem_offers.2 ⟨i, p, hi, by simp, hm⟩
    rcases hfind : (ofProviders ps).1.find? id with _ | route
    · rw [find?_ofProviders, List.find?_eq_none] at hfind
      exact absurd (beq_iff_eq.2 hid) (hfind _ hoffer)
    · obtain ⟨⟨q, hq, -⟩, -⟩ := first_of_find? hfind
      exact ⟨q, route, resolve_ofProviders.2 ⟨hfind, hq⟩⟩
  · obtain ⟨hfind, hp⟩ := resolve_ofProviders.1 h
    obtain ⟨⟨q, hq, hm⟩, hfirst⟩ := first_of_find? hfind
    obtain rfl : q = p := Option.some.inj (hq.symm.trans hp)
    have hid := hconsistent.named id route hfind
    refine ⟨fun m => ⟨?_, ?_⟩, (List.getElem?_eq_some_iff.1 hp).1, hp, ⟨route.model, hm, hid⟩,
      hfirst⟩
    · rintro ⟨hlisted, rfl⟩
      obtain ⟨r, hr, rfl⟩ := (hconsistent.listed m).1 hlisted
      rw [Option.some.inj (hfind.symm.trans hr)]
    · rintro rfl
      exact ⟨(hconsistent.listed _).2 ⟨route, by rw [hid, hfind], rfl⟩, hid⟩

end Router

end Switchboard
