import Mathlib.Data.List.Induction
import Stockroom.Proofs.Outcome
import Stockroom.Store.Settings

/-!
Settings that several callers ask for at once. A call is two statements, one that stores its candidate
unless the key has a value and one that reads the value, and between them any other call may take its
turns. Whatever the order of the turns, the first candidate that comes to be stored is the value that
everyone gets, unless the key had a value before.

Main definitions and statements:
* `SettingCall`, `SettingPool.run`: calls in progress, and turns taken in any order;
* `settled`: the value of the key after some turns, and `Holds`: a store in which it stands;
* `Stage`: how far a call is after some of its turns; `Stage.step`: one turn;
* `SettingPool.steady_step`, `SettingPool.steady_run`: what turns keep;
* `first_setting_wins`: what every call returns, and what is stored.
-/
namespace Stockroom
set_option autoImplicit false

/-! ## Calls that take turns -/

/-- A call for a setting: with what was generated, with its statement to store it done, or returned. -/
inductive SettingCall where
  | fresh (generated : Except Text Text)
  | offered
  | returned (result : Except StoreError Text)
  deriving Repr

/-- One turn of a call: its next statement. -/
def SettingCall.step (key : Text) (s : Store) : SettingCall → SettingCall × Store
  | .fresh (.error message) => (.returned (.error (.generator key message)), s)
  | .fresh (.ok candidate) =>
    match s.offerSetting key candidate with
    | .error e => (.returned (.error e), s)
    | .ok s => (.offered, s)
  | .offered => (.returned (s.setting? key), s)
  | .returned result => (.returned result, s)

/-- A store and the calls that are made for one key. -/
structure SettingPool where
  store : Store
  calls : List SettingCall

namespace SettingPool

/-- Calls of which none has had a turn. -/
def start (s : Store) (generated : List (Except Text Text)) : SettingPool :=
  ⟨s, generated.map .fresh⟩

/-- A turn of the i-th call. -/
def step (key : Text) (pool : SettingPool) (i : Nat) : SettingPool :=
  match pool.calls[i]? with
  | none => pool
  | some call => ⟨(call.step key pool.store).2, pool.calls.set i (call.step key pool.store).1⟩

/-- Turns in the order in which the calls are scheduled. -/
def run (key : Text) (pool : SettingPool) (turns : List Nat) : SettingPool :=
  turns.foldl (step key) pool

theorem run_concat (key : Text) (pool : SettingPool) (turns : List Nat) (i : Nat) :
    run key pool (turns ++ [i]) = step key (run key pool turns) i := by
  rw [run, List.foldl_append, List.foldl_cons, List.foldl_nil, run]

end SettingPool

/-! ## The value of the key -/

/-- The candidate of the first call that took a turn and had one. -/
def firstOffered (generated : List (Except Text Text)) (turns : List Nat) : Option Text :=
  turns.findSome? fun i => (generated[i]?).bind Except.toOption

/-- The value of a key after some turns: the one it had, or else the first that was offered. -/
def settled (s : Store) (key : Text) (generated : List (Except Text Text)) (turns : List Nat) :
    Option Text :=
  (s.settings.lookup key).or (firstOffered generated turns)

/-- Whether candidates for a key can be stored at all. -/
def Store.storable (s : Store) (key : Text) : Except StoreError Unit :=
  s.writable .settings true ("storing " ++ key)

/-- The store with a candidate for a key, unless it has a value. -/
def Store.offered (s : Store) (key candidate : Text) : Store :=
  if (s.settings.lookup key).isSome then s
  else { s with settings := s.settings ++ [(key, candidate)] }

/-- A store differs from another one in at most the value of a key, which is the one given if values
can be stored. -/
structure Holds (s : Store) (key : Text) (value : Option Text) (t : Store) : Prop where
  rest : t = { s with settings := t.settings }
  others : ∀ other, other ≠ key → t.settings.lookup other = s.settings.lookup other
  own : s.storable key = .ok () → t.settings.lookup key = value
  kept : s.storable key ≠ .ok () → t = s

section
variable {s t : Store} {key : Text} {value : Option Text}

theorem settled_concat (s : Store) (key : Text) (generated : List (Except Text Text))
    (turns : List Nat) (i : Nat) : settled s key generated (turns ++ [i]) =
      (settled s key generated turns).or ((generated[i]?).bind Except.toOption) := by
  rw [settled, firstOffered, List.findSome?_append, ← firstOffered, List.findSome?_singleton, settled,
    Option.or_assoc]

theorem Store.offerSetting_eq (s : Store) (key candidate : Text) :
    s.offerSetting key candidate = (s.storable key).map fun _ => s.offered key candidate := by
  simp only [offerSetting, storable, offered]
  cases s.writable .settings true ("storing " ++ key) with
  | error e => rfl
  | ok =>
    simp only [Except.map, bind, Except.bind, pure, Except.pure]
    split <;> rfl

theorem Store.setting?_eq {value : Text} (h : s.storable key = .ok ())
    (hvalue : s.settings.lookup key = some value) : s.setting? key = .ok value := by
  obtain ⟨_, hreadable, -⟩ := bind_eq_ok.mp h
  unfold setting?
  refine bind_eq_ok.mpr ⟨(), ?_, ?_⟩
  · unfold readable at hreadable ⊢
    split at hreadable
    · cases hreadable
    · next hopen => rw [if_neg hopen]
  · rw [hvalue]
    rfl

/-- Whether candidates can be stored does not depend on what is stored. -/
theorem Holds.storable (h : Holds s key value t) : t.storable key = s.storable key := by
  rw [h.rest]
  rfl

theorem lookup_offered (s : Store) (key candidate other : Text) :
    (s.offered key candidate).settings.lookup other =
      (s.settings.lookup other).or (if other = key then some candidate else none) := by
  unfold Store.offered
  split
  · next hsome =>
    split
    · next heq =>
      obtain ⟨value, hvalue⟩ := Option.isSome_iff_exists.mp hsome
      rw [heq, hvalue, Option.some_or]
    · rw [Option.or_none]
  · rw [List.lookup_append, List.lookup_cons, List.lookup_nil]
    by_cases heq : other = key
    · rw [if_pos heq, heq, beq_self_eq_true]
    · rw [if_neg heq, beq_eq_false_iff_ne.mpr heq]

/-- A candidate that is stored counts where there is no value. -/
theorem Holds.offered (h : Holds s key value t) (hstorable : s.storable key = .ok ())
    (candidate : Text) : Holds s key (value.or (some candidate)) (t.offered key candidate) where
  rest := by
    unfold Store.offered
    split
    · exact h.rest
    · rw [h.rest]
  others other hother := by
    rw [lookup_offered, if_neg hother, Option.or_none, h.others other hother]
  own _ := by rw [lookup_offered, if_pos rfl, h.own hstorable]
  kept hnot := absurd hstorable hnot

/-- A value that is stored stays. -/
theorem Holds.stays (h : Holds s key value t) {offered : Option Text}
    (hvalue : s.storable key = .ok () → value.or offered = value) :
    Holds s key (value.or offered) t where
  rest := h.rest
  others := h.others
  own hstorable := (h.own hstorable).trans (hvalue hstorable).symm
  kept := h.kept

theorem Holds.unstorable (h : Holds s key value t) {e : StoreError}
    (hstorable : s.storable key = .error e) (offered : Option Text) :
    Holds s key (value.or offered) t :=
  h.stays fun hok => by
    rw [hok] at hstorable
    cases hstorable

theorem Holds.stored (h : Holds s key value t) {stored : Text} (hstored : value = some stored)
    (offered : Option Text) : Holds s key (value.or offered) t :=
  h.stays fun _ => by rw [hstored, Option.some_or]

end

/-! ## One call -/

/-- How far a call is after a number of its turns, when the key has a value or none yet. -/
inductive Stage (s : Store) (key : Text) (value : Option Text) :
    Except Text Text → Nat → SettingCall → Prop where
  | fresh (generated : Except Text Text) : Stage s key value generated 0 (.fresh generated)
  | ungenerated (message : Text) (n : Nat) :
      Stage s key value (.error message) (n + 1) (.returned (.error (.generator key message)))
  | unstored (candidate : Text) {e : StoreError} (hstorable : s.storable key = .error e) (n : Nat) :
      Stage s key value (.ok candidate) (n + 1) (.returned (.error e))
  | offered (candidate : Text) {stored : Text} (hstorable : s.storable key = .ok ())
      (hstored : value = some stored) : Stage s key value (.ok candidate) 1 .offered
  | first (candidate : Text) {stored : Text} (hstorable : s.storable key = .ok ())
      (hstored : value = some stored) (n : Nat) :
      Stage s key value (.ok candidate) (n + 2) (.returned (.ok stored))

section
variable {s t : Store} {key : Text} {value : Option Text} {generated : Except Text Text} {n : Nat}
  {call : SettingCall}

/-- Turns of others leave a call where it is. -/
theorem Stage.stays (h : Stage s key value generated n call) (offered : Option Text) :
    Stage s key (value.or offered) generated n call := by
  cases h with
  | fresh => exact .fresh _
  | ungenerated => exact .ungenerated _ _
  | unstored _ hstorable => exact .unstored _ hstorable _
  | offered _ hstorable hstored => exact .offered _ hstorable (by rw [hstored, Option.some_or])
  | first _ hstorable hstored => exact .first _ hstorable (by rw [hstored, Option.some_or]) _

/-- A turn of a call takes it on, and stores its candidate if it is the first one. -/
theorem Stage.step (h : Stage s key value generated n call) (ht : Holds s key value t) :
    Stage s key (value.or generated.toOption) generated (n + 1) (call.step key t).1 ∧
      Holds s key (value.or generated.toOption) (call.step key t).2 := by
  cases h with
  | fresh =>
    cases generated with
    | error message => exact ⟨.ungenerated message 0, ht.stays fun _ => Option.or_none⟩
    | ok candidate =>
      rw [SettingCall.step, Store.offerSetting_eq, ht.storable]
      cases hstorable : s.storable key with
      | error e => exact ⟨.unstored candidate hstorable 0, ht.unstorable hstorable _⟩
      | ok =>
        refine ⟨?_, ht.offered hstorable candidate⟩
        obtain ⟨stored, hstored⟩ : ∃ stored, value.or (some candidate) = some stored := by
          cases value <;> simp
        exact .offered candidate hstorable hstored
  | ungenerated message => exact ⟨.ungenerated message _, ht.stays fun _ => Option.or_none⟩
  | unstored candidate hstorable =>
    exact ⟨.unstored candidate hstorable _, ht.unstorable hstorable _⟩
  | offered candidate hstorable hstored =>
    have hread := Store.setting?_eq (ht.storable.trans hstorable)
      ((ht.own hstorable).trans hstored)
    rw [SettingCall.step, hread]
    exact ⟨.first candidate hstorable (by rw [hstored, Option.some_or]) 0, ht.stored hstored _⟩
  | first candidate hstorable hstored =>
    exact ⟨.first candidate hstorable (by rw [hstored, Option.some_or]) _, ht.stored hstored _⟩

end

/-! ## All calls -/

namespace SettingPool

/-- What holds of the calls and the store after some turns. -/
structure Steady (s : Store) (key : Text) (generated : List (Except Text Text)) (turns : List Nat)
    (pool : SettingPool) : Prop where
  store : Holds s key (settled s key generated turns) pool.store
  length : pool.calls.length = generated.length
  calls : ∀ i g, generated[i]? = some g → ∃ call, pool.calls[i]? = some call ∧
    Stage s key (settled s key generated turns) g (turns.count i) call

section
variable {s : Store} {key : Text} {generated : List (Except Text Text)} {turns : List Nat}
  {pool : SettingPool}

theorem steady_start (s : Store) (key : Text) (generated : List (Except Text Text)) :
    Steady s key generated [] (start s generated) where
  store := ⟨rfl, fun _ _ => rfl, fun _ => (Option.or_none).symm, fun _ => rfl⟩
  length := List.length_map ..
  calls i g hg := ⟨.fresh g, by rw [start, List.getElem?_map, hg]; rfl, .fresh g⟩

theorem steady_step (h : Steady s key generated turns pool) (i : Nat) :
    Steady s key generated (turns ++ [i]) (step key pool i) := by
  have hvalue := settled_concat s key generated turns i
  cases hg : generated[i]? with
  | none =>
    -- a turn of nobody
    have hcall : pool.calls[i]? = none := by
      rw [List.getElem?_eq_none_iff] at hg ⊢
      rwa [h.length]
    rw [hg, Option.bind_none, Option.or_none] at hvalue
    rw [step, hcall]
    refine ⟨hvalue ▸ h.store, h.length, fun j g hj => ?_⟩
    obtain ⟨call, hcall, hstage⟩ := h.calls j g hj
    have hne : i ≠ j := by
      rintro rfl
      rw [hg] at hj
      cases hj
    rw [hvalue, List.count_append, List.count_singleton, if_neg (by simpa using hne), Nat.add_zero]
    exact ⟨call, hcall, hstage⟩
  | some g =>
    obtain ⟨call, hcall, hstage⟩ := h.calls i g hg
    rw [hg, Option.bind_some] at hvalue
    obtain ⟨hstage, hstore⟩ := hstage.step h.store
    rw [step, hcall]
    refine ⟨hvalue ▸ hstore, by rw [List.length_set, h.length], fun j other hj => ?_⟩
    rw [hvalue, List.count_append, List.count_singleton]
    by_cases heq : i = j
    · subst heq
      obtain rfl := Option.some.inj (hg.symm.trans hj)
      have hlt := (List.getElem?_eq_some_iff.mp hcall).1
      exact ⟨_, List.getElem?_set_self hlt, by rwa [if_pos (beq_self_eq_true i)]⟩
    · obtain ⟨another, hanother, hlater⟩ := h.calls j other hj
      refine ⟨another, (List.getElem?_set_ne heq).trans hanother, ?_⟩
      rw [if_neg (by simpa using heq), Nat.add_zero]
      exact hlater.stays _

theorem steady_run (s : Store) (key : Text) (generated : List (Except Text Text))
    (turns : List Nat) : Steady s key generated turns (run key (start s generated) turns) := by
  induction turns using List.reverseRecOn with
  | nil => exact steady_start s key generated
  | append_singleton turns i ih =>
    rw [run_concat]
    exact steady_step ih i

/-- A call that is made alone takes its two turns one after the other. -/
theorem run_alone (s : Store) (key : Text) (generated : Except Text Text) :
    run key (start s [generated]) [0, 0] = match s.ensureSetting key generated with
      | .error e => ⟨s, [.returned (.error e)]⟩
      | .ok (value, t) => ⟨t, [.returned (.ok value)]⟩ := by
  cases generated with
  | error message => rfl
  | ok candidate =>
    have hoffer := s.offerSetting_eq key candidate
    simp only [run, List.foldl_cons, List.foldl_nil, start, List.map_cons, List.map_nil, step,
      List.getElem?_cons_zero, SettingCall.step, Store.ensureSetting, hoffer]
    cases hstorable : s.storable key with
    | error e => rfl
    | ok =>
      obtain ⟨value, hvalue⟩ :
          ∃ value, (s.offered key candidate).settings.lookup key = some value := by
        rw [lookup_offered, if_pos rfl]
        cases s.settings.lookup key <;> simp
      have hopen : (s.offered key candidate).storable key = .ok () := by
        unfold Store.offered
        split <;> exact hstorable
      have hread := Store.setting?_eq hopen hvalue
      simp only [Except.map, bind, Except.bind, pure, Except.pure, List.set_cons_zero,
        List.getElem?_cons_zero, hread]

theorem Steady.returned (h : Steady s key generated turns pool) {i : Nat} {value : Text}
    (hi : pool.calls[i]? = some (.returned (.ok value))) :
    settled s key generated turns = some value := by
  cases hg : generated[i]? with
  | none =>
    rw [List.getElem?_eq_none_iff, ← h.length, ← List.getElem?_eq_none_iff, hi] at hg
    cases hg
  | some g =>
    obtain ⟨call, hcall, hstage⟩ := h.calls i g hg
    obtain rfl := Option.some.inj (hi.symm.trans hcall)
    generalize turns.count i = n at hstage
    cases hstage with
    | first _ _ hstored => exact hstored

theorem Steady.finished (h : Steady s key generated turns pool) {i : Nat}
    (hi : i < generated.length) (hturns : 2 ≤ turns.count i) :
    ∃ result, pool.calls[i]? = some (.returned result) := by
  obtain ⟨call, hcall, hstage⟩ := h.calls i _ (List.getElem?_eq_getElem hi)
  generalize generated[i] = g at hstage
  generalize turns.count i = n at hturns hstage
  cases hstage with
  | fresh => omega
  | offered => omega
  | ungenerated | unstored | first => exact ⟨_, hcall⟩

end

end SettingPool

/-- Of calls for one key, whatever order their statements run in, every call that returns a value
returns the same: the one that the key had, or else the candidate that was the first to be offered. A
call is at the stage that its turns have taken it to, and returns with its second one. The key then has
that value, and nothing else in the store has changed. One call alone is what one caller does. -/
theorem first_setting_wins (s : Store) (key : Text) (generated : List (Except Text Text))
    (turns : List Nat) :
    let pool : SettingPool := SettingPool.run key (SettingPool.start s generated) turns
    (∀ (i : Nat) (value : Text), pool.calls[i]? = some (.returned (.ok value)) →
      (s.settings.lookup key).or (firstOffered generated turns) = some value) ∧
    (∀ (i : Nat) (g : Except Text Text), generated[i]? = some g →
      ∃ call, pool.calls[i]? = some call ∧
        Stage s key (settled s key generated turns) g (turns.count i) call) ∧
    (∀ i < generated.length, 2 ≤ turns.count i →
      ∃ result, pool.calls[i]? = some (.returned result)) ∧
    (s.storable key = .ok () →
      pool.store.settings.lookup key = settled s key generated turns) ∧
    (s.storable key ≠ .ok () → pool.store = s) ∧
    (∀ other, other ≠ key → pool.store.settings.lookup other = s.settings.lookup other) ∧
    pool.store = { s with settings := pool.store.settings } ∧
    ∀ g, SettingPool.run key (SettingPool.start s [g]) [0, 0] =
      match s.ensureSetting key g with
      | .error e => ⟨s, [.returned (.error e)]⟩
      | .ok (value, t) => ⟨t, [.returned (.ok value)]⟩ := by
  have hsteady := SettingPool.steady_run s key generated turns
  exact ⟨fun _ _ => hsteady.returned, hsteady.calls, fun _ => hsteady.finished, hsteady.store.own,
    hsteady.store.kept, hsteady.store.others, hsteady.store.rest, SettingPool.run_alone s key⟩

theorem twoSecrets_shared :
    let pool : SettingPool :=
      SettingPool.run Store.secretKey (SettingPool.start {} [.ok "a", .ok "b"]) [1, 0, 0, 1]
    pool.calls[0]? = some (.returned (.ok "b")) ∧
    firstOffered [.ok "a", .ok "b"] [1, 0, 0, 1] = some "b" ∧
    pool.store.settings.lookup Store.secretKey = some "b" := by
  obtain ⟨hvalue, -, -, hown, -⟩ :=
    first_setting_wins {} Store.secretKey [.ok "a", .ok "b"] [1, 0, 0, 1]
  have hcall : (SettingPool.run Store.secretKey (SettingPool.start {} [.ok "a", .ok "b"])
      [1, 0, 0, 1]).calls[0]? = some (.returned (.ok "b")) := rfl
  exact ⟨hcall, hvalue 0 "b" hcall, (hown rfl).trans (hvalue 0 "b" hcall)⟩

end Stockroom
