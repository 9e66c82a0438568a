import Mathlib.Data.List.Induction
import PropertyTyping.Proofs.LogHistory

/-! How logging is set up after any history. However often it was configured, and whatever else
listens, the console listens once, the root stays at the level of information, and the package has
the level that was asked for last. -/

namespace PropertyTyping.Log

/-- What a value asks for: the level that it names in any case, or the level of information if it
names none. -/
inductive Selects : Value → Level → Prop
  | named {v : Value} {t : Text} {l : Level} : v.text? = some t →
      (t.asciiCapitals, l) ∈ LevelRequest.levels → Selects v l
  | unnamed {v : Value} {t : Text} : v.text? = some t →
      (∀ l, (t.asciiCapitals, l) ∉ LevelRequest.levels) → Selects v Level.info

theorem selects_of_resolve {v : Value} {l : Level} (h : LevelRequest.resolve v = .ok l) :
    Selects v l := by
  unfold LevelRequest.resolve at h
  cases ht : v.text? with
  | none => simp only [ht, reduceCtorEq] at h
  | some t =>
      simp only [ht, LevelRequest.ofText] at h
      split at h
      · rename_i hl
        split at hl
        · cases hl
        split at hl
        · cases hl
        cases h
        cases hfind : LevelRequest.levels.find? (·.1 = t.asciiCapitals) with
        | none =>
            rw [hfind] at hl
            cases hl
            refine .unnamed ht ?_
            intro l hmem
            exact List.find?_eq_none.mp hfind _ hmem (decide_eq_true rfl)
        | some p =>
            rw [hfind] at hl
            cases hl
            have hp := List.find?_some hfind
            have hname : p.1 = t.asciiCapitals := of_decide_eq_true hp
            exact .named ht (hname ▸ List.mem_of_find?_eq_some hfind)
      · cases h
      · cases h

/-- No level has a name in common with another. -/
theorem Selects.unique {v : Value} {l m : Level} (hl : Selects v l) (hm : Selects v m) : l = m := by
  have hnames : ∀ p ∈ LevelRequest.levels, ∀ q ∈ LevelRequest.levels, p.1 = q.1 → p.2 = q.2 := by
    decide
  cases hl with
  | named ht hmem =>
      cases hm with
      | named hu hmem' =>
          cases ht.symm.trans hu
          exact hnames _ hmem _ hmem' rfl
      | unnamed hu hnone =>
          cases ht.symm.trans hu
          exact absurd hmem (hnone _)
  | unnamed ht hnone =>
      cases hm with
      | named hu hmem =>
          cases ht.symm.trans hu
          exact absurd hmem (hnone _)
      | unnamed _ _ => rfl

/-- The level of the package by the last request that was met, if one was. -/
inductive Chosen : Option Value → Level → Prop
  | initial : Chosen none State.initial.packageLevel
  | selected {v : Value} {l : Level} : Selects v l → Chosen (some v) l

theorem Chosen.unique {request : Option Value} {l m : Level} (hl : Chosen request l)
    (hm : Chosen request m) : l = m := by
  cases hl with
  | initial =>
      cases hm
      rfl
  | selected hl =>
      cases hm with
      | selected hm => exact hl.unique hm

def Action.addsHandler : Action → Bool
  | .addHandler => true
  | _ => false

/-- What holds of the settings after some actions, of which some requests for levels were met. -/
structure Settled (as : List Action) (requests : List Value) (s : State) : Prop where
  count_console_le : s.handlers.count .console ≤ 1
  length_handlers : s.handlers.length = s.handlers.count .console + as.countP Action.addsHandler
  console_mem_iff : .console ∈ s.handlers ↔ ∃ level, .configure level ∈ as
  rootLevel_of_mem : .console ∈ s.handlers → s.rootLevel = Level.info
  chosen : Chosen requests.getLast? s.packageLevel

namespace Settled

variable {as : List Action} {requests : List Value} {s t : State}

theorem initial : Settled [] [] .initial where
  count_console_le := Nat.zero_le 1
  length_handlers := rfl
  console_mem_iff := iff_of_false nofun nofun
  rootLevel_of_mem := nofun
  chosen := .initial

theorem keep (h : Settled as requests s) {a : Action} (ha : a.addsHandler = false)
    (hc : ∀ level, a ≠ .configure level) (hhandlers : t.handlers = s.handlers)
    (hroot : t.rootLevel = s.rootLevel) (hpackage : t.packageLevel = s.packageLevel) :
    Settled (as ++ [a]) requests t where
  count_console_le := by rw [hhandlers]; exact h.count_console_le
  length_handlers := by
    rw [hhandlers, List.countP_append, List.countP_singleton, ha, h.length_handlers]
    rfl
  console_mem_iff := by
    have hlast : ∀ level, .configure level ∈ as ++ [a] ↔ .configure level ∈ as := by
      intro level
      rw [List.mem_append, List.mem_singleton, or_iff_left (hc level).symm]
    simp only [hhandlers, hlast, h.console_mem_iff]
  rootLevel_of_mem := by rw [hhandlers, hroot]; exact h.rootLevel_of_mem
  chosen := by rw [hpackage]; exact h.chosen

theorem addHandler (h : Settled as requests s) :
    Settled (as ++ [.addHandler]) requests (s.addHandler .other) where
  count_console_le := by
    rw [State.addHandler, List.count_append]
    exact h.count_console_le
  length_handlers := by
    simp only [State.addHandler, List.length_append, List.count_append, List.countP_append,
      h.length_handlers]
    rfl
  console_mem_iff := by
    simp only [State.addHandler, List.mem_append, List.mem_singleton, reduceCtorEq, or_false,
      h.console_mem_iff]
  rootLevel_of_mem := by
    simp only [State.addHandler, List.mem_append, List.mem_singleton, reduceCtorEq, or_false]
    exact h.rootLevel_of_mem
  chosen := h.chosen

/-- The console is there after a configuration whether or not its request for a level is met. -/
theorem withConsole (h : Settled as requests s) {level : Value} {requests' : List Value}
    (hhandlers : t.handlers = s.withConsole.handlers)
    (hroot : t.rootLevel = s.withConsole.rootLevel)
    (hchosen : Chosen requests'.getLast? t.packageLevel) :
    Settled (as ++ [.configure level]) requests' t := by
  have hadds : (as ++ [Action.configure level]).countP Action.addsHandler =
      as.countP Action.addsHandler := by
    rw [List.countP_append]
    rfl
  have hsome : ∃ l, .configure l ∈ as ++ [.configure level] :=
    ⟨level, List.mem_append_right _ (List.mem_singleton_self _)⟩
  by_cases hmem : .console ∈ s.handlers
  · rw [State.withConsole_of_mem hmem] at hhandlers hroot
    refine ⟨?_, ?_, iff_of_true (hhandlers ▸ hmem) hsome, ?_, hchosen⟩
    · rw [hhandlers]
      exact h.count_console_le
    · rw [hhandlers, hadds]
      exact h.length_handlers
    · rw [hroot]
      exact fun _ => h.rootLevel_of_mem hmem
  · rw [State.withConsole_of_not_mem hmem] at hhandlers hroot
    have hcount : s.handlers.count .console = 0 := List.count_eq_zero.mpr hmem
    have hlength := h.length_handlers
    refine ⟨?_, ?_, iff_of_true ?_ hsome, fun _ => hroot, hchosen⟩
    · rw [hhandlers, List.count_append, hcount]
      exact Nat.le_refl 1
    · rw [hhandlers, hadds, List.count_append, List.length_append, hlength, hcount]
      exact Nat.add_right_comm _ _ _
    · rw [hhandlers]
      exact List.mem_append_right _ (List.mem_singleton_self _)

end Settled

namespace Session

section Requests

variable (stamp : Text) (s : Session)

/-- Actions with the steps that were taken for them. -/
def history (as : List Action) : List (Action × Taken) := as.zip (run stamp s as)

theorem history_concat (as : List Action) (a : Action) : s.history stamp (as ++ [a]) =
    s.history stamp as ++ [(a, (s.after stamp as).step stamp a)] := by
  rw [history, run_append, List.zip_append (length_run stamp s as).symm]
  rfl

/-- The level that was asked for by a configuration that came through. -/
def met? : Action × Taken → Option Value
  | (.configure level, ⟨_, .done, _⟩) => some level
  | _ => none

/-- The levels that were asked for by the configurations that came through. -/
def metRequests (as : List Action) : List Value := (s.history stamp as).filterMap met?

theorem metRequests_concat (as : List Action) (a : Action) :
    s.metRequests stamp (as ++ [a]) =
      s.metRequests stamp as ++ (met? (a, (s.after stamp as).step stamp a)).toList := by
  rw [metRequests, history_concat, List.filterMap_append, metRequests]
  cases h : met? (a, (s.after stamp as).step stamp a) with
  | none => rw [List.filterMap_cons_none h]; rfl
  | some v => rw [List.filterMap_cons_some h]; rfl

theorem configure_mem_of_met {as : List Action} {level : Value}
    (h : level ∈ s.metRequests stamp as) : .configure level ∈ as := by
  obtain ⟨⟨a, t⟩, hmem, hmet⟩ := List.mem_filterMap.mp h
  unfold met? at hmet
  split at hmet
  · rename_i he
    cases hmet
    cases he
    exact (List.of_mem_zip hmem).1
  · cases hmet

end Requests

/-- Each step leaves the settings as the history before it and the step itself demand. -/
theorem settled_step (stamp : Text) {as : List Action} {requests : List Value} {s : Session}
    (h : Settled as requests s.state) (a : Action) :
    Settled (as ++ [a]) (requests ++ (met? (a, s.step stamp a)).toList)
      (s.step stamp a).session.state := by
  cases a with
  | push runId =>
      obtain ⟨current, tickets, hframe⟩ := s.state.push_frame runId
      change Settled _ (requests ++ []) (s.state.push runId).1
      rw [hframe, List.append_nil]
      exact h.keep rfl (by simp) rfl rfl rfl
  | reset answer =>
      obtain ⟨current, tickets, hframe⟩ :=
        s.state.reset_frame (answer.bind fun i => (s.answers[i]?).join)
      change Settled _ (requests ++ []) (s.state.reset _).1
      rw [hframe, List.append_nil]
      exact h.keep rfl (by simp) rfl rfl rfl
  | configure level =>
      cases hlevel : LevelRequest.resolve level with
      | ok l =>
          rw [step_configure_of_ok stamp s hlevel]
          refine h.withConsole rfl rfl ?_
          have hlast : (requests ++ [level]).getLast? = some level := List.getLast?_concat
          exact hlast ▸ Chosen.selected (selects_of_resolve hlevel)
      | error f =>
          rw [step_configure_of_error stamp s hlevel]
          refine h.withConsole rfl rfl ?_
          change Chosen (requests ++ []).getLast? s.state.withConsole.packageLevel
          rw [List.append_nil, State.packageLevel_withConsole]
          exact h.chosen
  | addHandler =>
      change Settled _ (requests ++ []) (s.state.addHandler .other)
      rw [List.append_nil]
      exact h.addHandler
  | log logger level message =>
      obtain ⟨_, _, hframe⟩ := session_log stamp s logger level message
      change Settled _ (requests ++ []) (s.step stamp (.log logger level message)).session.state
      rw [hframe, List.append_nil]
      exact h.keep rfl (by simp) rfl rfl rfl
  | resolve tags mandatory =>
      change Settled _ (requests ++ []) _
      rw [List.append_nil, session_resolve]
      exact h.keep rfl (by simp) rfl rfl rfl

theorem settled_after (stamp : Text) (as : List Action) :
    Settled as (initial.metRequests stamp as) (initial.after stamp as).state := by
  induction as using List.reverseRecOn with
  | nil => exact .initial
  | append_singleton as a ih =>
      rw [metRequests_concat, after_concat]
      exact settled_step stamp ih a

/-- In every state that actions lead to, the console listens at most once, and once from the first
configuration that came through. Whatever else listens was added. From that configuration on the
root is at the level of information, and the package has the level that the last configuration that
came through asked for. -/
theorem settings_after (stamp : Text) (as : List Action) :
    (initial.after stamp as).state.handlers.count .console ≤ 1 ∧
    (initial.after stamp as).state.handlers.length =
      (initial.after stamp as).state.handlers.count .console + as.countP Action.addsHandler ∧
    (initial.metRequests stamp as ≠ [] →
      (initial.after stamp as).state.handlers.count .console = 1 ∧
      (initial.after stamp as).state.rootLevel = Level.info) ∧
    Chosen (initial.metRequests stamp as).getLast? (initial.after stamp as).state.packageLevel := by
  have h := settled_after stamp as
  refine ⟨h.count_console_le, h.length_handlers, ?_, h.chosen⟩
  intro hmet
  obtain ⟨level, hlevel⟩ := List.exists_mem_of_ne_nil _ hmet
  have hmem := h.console_mem_iff.mpr ⟨level, configure_mem_of_met stamp _ hlevel⟩
  exact ⟨Nat.le_antisymm h.count_console_le (List.one_le_count_iff.mpr hmem), h.rootLevel_of_mem hmem⟩

end Session

end PropertyTyping.Log
