import Mathlib.Data.List.Induction
import PublicationIndicator.Proofs.Service.Alone

/-!
# PublicationIndicator.Proofs.Service.Transcript — what each of many clients was told

Clients make one call each, on a store that is empty at first, and come to it in any order
(`System.served`).  At every moment a client has a transcript: the exchanges of its call so far.  They
lead from the call's session to what is left of it (`Session.Leads`), and they are true to the writes
that were carried out by then (`exists_transcript`).
-/

namespace PublicationIndicator

/-! ### The way to what is left -/

/-- With these exchanges the first session comes to where the second one is left. -/
inductive Session.Leads {α : Type} (s : Session α) : List Exchange → Session α → Prop where
  | refl : Leads s [] s
  | load {t id next} (h : Leads s t (.load id next)) (answer : Except StoreError (Option StoredCandidate)) :
    Leads s (t ++ [.load id answer]) (next answer)
  | save {t c expected next} (h : Leads s t (.save c expected next)) (answer : Except StoreError Nat) :
    Leads s (t ++ [.save c expected answer]) (next answer)
  | publish {t u next} (h : Leads s t (.publish u next)) (answer : Except PublishError Unit) :
    Leads s (t ++ [.publish u answer]) (next answer)

/-- A way to what is left and a way from there to a result are a way to the result. -/
theorem Session.Leads.path {α : Type} {s rest : Session α} {t u : List Exchange} {a : α}
    (h : s.Leads t rest) (hu : rest.Path u a) : s.Path (t ++ u) a := by
  induction h generalizing u with
  | refl => exact hu
  | load h answer ih =>
    rw [List.append_assoc]
    exact ih ⟨answer, u, rfl, hu⟩
  | save h answer ih =>
    rw [List.append_assoc]
    exact ih ⟨answer, u, rfl, hu⟩
  | publish h answer ih =>
    rw [List.append_assoc]
    exact ih ⟨answer, u, rfl, hu⟩

namespace Service

variable {ι : Type} [DecidableEq ι]

namespace System

/-! ### Clients with one call each -/

/-- The system after the clients have come to an empty store, or to the outlet, in that order; where it
is the outlet, the second component says whether the notification is taken. -/
def served (calls : ι → Call) (order : List (ι × Except PublishError Unit)) : System ι :=
  (started .empty calls).run (order.map fun o => .proceed o.1 o.2)

variable {calls : ι → Call} {order : List (ι × Except PublishError Unit)} {i j : ι}
  {outlet : Except PublishError Unit}

theorem served_concat : served calls (order ++ [(i, outlet)]) =
    (served calls order).step (.proceed i outlet) := by
  simp [served, run]

theorem lawful_served (calls : ι → Call) (order : List (ι × Except PublishError Unit)) :
    (served calls order).Lawful := by
  have hstarted : (started .empty calls).Lawful := by
    refine ⟨fun _ => .nil, fun _ => rfl, fun w hw => ?_, fun i r hr => ?_⟩
    · cases hw
    · cases hr
      exact ⟨none, careful_session (calls i), fun current hc => by cases hc⟩
  exact lawful_run hstarted _

/-! ### Transcripts -/

/-- What the client was told is true: a version that it loaded was written, nothing was stored at its
turn if it was told so, what it saved was written as the version after the expected one, and only a
write that expected another version was refused. -/
def Genuine (calls : ι → Call) (order : List (ι × Except PublishError Unit)) (i : ι) : Exchange → Prop
  | .load id (.ok (some current)) => ∃ w ∈ (served calls order).history id, w.stored = current
  | .load id (.ok none) => ∃ before after outlet, order = before ++ (i, outlet) :: after ∧
      (served calls before).store.load id = none
  | .load _ (.error _) => False
  | .save c expected (.ok version) => version = expected.elim 1 (· + 1) ∧
      ∃ w ∈ (served calls order).history c.id, w.client = i ∧ w.stored = ⟨c, version⟩
  | .save c expected (.error e) => ∃ actual, actual ≠ expected ∧
      e = .concurrentModification c.id expected actual
  | .publish _ _ => True

/-- The exchanges of a client's call so far, and what is left of the call. -/
structure Transcript (calls : ι → Call) (order : List (ι × Except PublishError Unit)) (i : ι)
    (t : List Exchange) (rest : Session Answer) : Prop where
  running : (served calls order).running i = some ⟨calls i, rest⟩
  leads : (calls i).session.Leads t rest
  genuine : ∀ x ∈ t, Genuine calls order i x
  /-- What the client has written is what it was told to have written. -/
  own : ∀ w ∈ (served calls order).writes, w.client = i →
    w.call = calls i ∧ ∃ x ∈ t, x.written? = some w.stored
  /-- Each turn adds an exchange until the call is over. -/
  length : t.length = (order.map Prod.fst).count i ∨ ∃ a, rest = .done a

/-! ### A client's turn -/

/-- What a turn adds to the writes: nothing, or what its client saved. -/
theorem writes_proceed {s : System ι} (r : Running) (outlet : Except PublishError Unit) :
    (s.proceed i r outlet).writes = s.writes ∨ ∃ c expected next version store,
      r.rest = .save c expected next ∧ s.store.save c expected = .ok (version, store) ∧
      (s.proceed i r outlet).writes = s.writes ++ [⟨i, r.call, ⟨c, version⟩⟩] := by
  unfold proceed
  cases hrest : r.rest with
  | done a => exact .inl rfl
  | load id next => exact .inl rfl
  | publish u next => exact .inl rfl
  | save c expected next =>
    cases hsave : s.store.save c expected with
    | error e =>
      left
      simp only [hsave]
      rfl
    | ok result =>
      obtain ⟨version, store⟩ := result
      right
      refine ⟨c, expected, next, version, store, rfl, hsave, ?_⟩
      simp only [hsave]

theorem running_proceed_of_ne {s : System ι} {r : Running} (h : j ≠ i) :
    (s.proceed i r outlet).running j = s.running j := by
  unfold proceed
  cases r.rest with
  | done a => rfl
  | load id next => simp [goOn, h]
  | publish u next => simp [goOn, h]
  | save c expected next =>
    cases hsave : s.store.save c expected with
    | error e => simp [hsave, goOn, h]
    | ok result => simp [hsave, goOn, h]

/-- No turn takes a write back. -/
theorem mem_history_concat {id : CandidateId} {w : Write ι} {r : Running}
    (hr : (served calls order).running i = some r) (hw : w ∈ (served calls order).history id) :
    w ∈ (served calls (order ++ [(i, outlet)])).history id := by
  obtain ⟨hmem, hid⟩ := mem_history.1 hw
  refine mem_history.2 ⟨?_, hid⟩
  rw [served_concat, step_proceed hr]
  rcases writes_proceed (i := i) (s := served calls order) r outlet with
    hwrites | ⟨_, _, _, _, _, -, -, hwrites⟩
  · rwa [hwrites]
  · rw [hwrites]
    exact List.mem_append_left _ hmem

/-- What was true when a client was told it stays true. -/
theorem Genuine.concat {x : Exchange} {r : Running} (hr : (served calls order).running i = some r)
    (h : Genuine calls order j x) : Genuine calls (order ++ [(i, outlet)]) j x := by
  rcases x with ⟨id, _ | _ | current⟩ | ⟨c, expected, _ | version⟩ | _
  · exact h
  · obtain ⟨before, after, o, rfl, hnone⟩ := h
    exact ⟨before, after ++ [(i, outlet)], o, by simp, hnone⟩
  · obtain ⟨w, hw, hstored⟩ := h
    exact ⟨w, mem_history_concat hr hw, hstored⟩
  · exact h
  · obtain ⟨hversion, w, hw, hwrite⟩ := h
    exact ⟨hversion, w, mem_history_concat hr hw, hwrite⟩
  · exact h

/-- Another client's turn leaves a transcript as it is. -/
theorem Transcript.concat_of_ne {t : List Exchange} {rest : Session Answer} {r : Running}
    (h : Transcript calls order j t rest) (hr : (served calls order).running i = some r) (hij : j ≠ i) :
    Transcript calls (order ++ [(i, outlet)]) j t rest where
  running := by
    rw [served_concat, step_proceed hr, running_proceed_of_ne hij]
    exact h.running
  leads := h.leads
  genuine x hx := (h.genuine x hx).concat hr
  own w hw hwj := by
    refine h.own w ?_ hwj
    rw [served_concat, step_proceed hr] at hw
    rcases writes_proceed (i := i) (s := served calls order) r outlet with
      hwrites | ⟨_, _, _, _, _, -, -, hwrites⟩
    · rwa [hwrites] at hw
    · rw [hwrites] at hw
      rcases List.mem_append.1 hw with hw | hw
      · exact hw
      · obtain rfl := List.mem_singleton.1 hw
        exact absurd hwj.symm hij
  length := by
    rw [List.map_append, List.count_append]
    simpa [hij.symm] using h.length

/-- A turn that is an exchange is added to the transcript. -/
theorem Transcript.extend {t : List Exchange} {rest rest' : Session Answer} {x : Exchange}
    (h : Transcript calls order i t rest) (hrest : ∀ a, rest ≠ .done a)
    (hleads : (calls i).session.Leads (t ++ [x]) rest')
    (hrunning : (served calls (order ++ [(i, outlet)])).running i = some ⟨calls i, rest'⟩)
    (hgenuine : Genuine calls (order ++ [(i, outlet)]) i x)
    (hwrites : ∀ w ∈ (served calls (order ++ [(i, outlet)])).writes,
      w ∈ (served calls order).writes ∨ w.call = calls i ∧ x.written? = some w.stored) :
    Transcript calls (order ++ [(i, outlet)]) i (t ++ [x]) rest' where
  running := hrunning
  leads := hleads
  genuine y hy := by
    rcases List.mem_append.1 hy with hy | hy
    · exact (h.genuine y hy).concat h.running
    · obtain rfl := List.mem_singleton.1 hy
      exact hgenuine
  own w hw hwi := by
    rcases hwrites w hw with hw | ⟨hcall, hx⟩
    · obtain ⟨hcall, y, hy, hyw⟩ := h.own w hw hwi
      exact ⟨hcall, y, List.mem_append_left _ hy, hyw⟩
    · exact ⟨hcall, x, by simp, hx⟩
  length := by
    left
    rcases h.length with hlength | ⟨a, ha⟩
    · simp [hlength]
    · exact absurd ha (hrest a)

/-- A client's own turn adds an exchange to its transcript, unless its call is over. -/
theorem Transcript.exists_concat {t : List Exchange} {rest : Session Answer}
    (h : Transcript calls order i t rest) (outlet : Except PublishError Unit) :
    ∃ t' rest', Transcript calls (order ++ [(i, outlet)]) i t' rest' := by
  have hstep : served calls (order ++ [(i, outlet)]) =
      (served calls order).proceed i ⟨calls i, rest⟩ outlet := by
    rw [served_concat, step_proceed h.running]
  have hlawful := lawful_served calls order
  cases rest with
  | done a =>
    have hstill : served calls (order ++ [(i, outlet)]) = served calls order := hstep
    refine ⟨t, .done a, ⟨?_, h.leads, fun x hx => (h.genuine x hx).concat h.running, ?_, .inr ⟨a, rfl⟩⟩⟩
    · rw [hstill]
      exact h.running
    · rw [hstill]
      exact h.own
  | load id next =>
    refine ⟨_, _, h.extend (fun a ha => by cases ha) (h.leads.load (.ok ((served calls order).store.load id))) ?_ ?_ ?_⟩
    · rw [hstep]
      simp [proceed, goOn]
    · cases hload : (served calls order).store.load id with
      | none => exact ⟨order, [], outlet, rfl, hload⟩
      | some current =>
        rw [hlawful.load_eq] at hload
        obtain ⟨w, hw, rfl⟩ := Option.map_eq_some_iff.1 hload
        exact ⟨w, mem_history_concat h.running (List.mem_of_getLast? hw), rfl⟩
    · intro w hw
      rw [hstep] at hw
      exact .inl hw
  | publish u next =>
    refine ⟨_, _, h.extend (fun a ha => by cases ha) (h.leads.publish outlet) ?_ trivial ?_⟩
    · rw [hstep]
      simp [proceed, goOn]
    · intro w hw
      rw [hstep] at hw
      exact .inl hw
  | save c expected next =>
    cases hsave : (served calls order).store.save c expected with
    | error e =>
      refine ⟨_, _, h.extend (fun a ha => by cases ha) (h.leads.save (.error e)) ?_ ?_ ?_⟩
      · rw [hstep]
        simp [proceed, goOn, hsave]
      · rw [CandidateStore.save] at hsave
        split at hsave
        · cases hsave
        · rename_i hactual
          cases hsave
          exact ⟨_, hactual, rfl⟩
      · intro w hw
        rw [hstep] at hw
        simp only [proceed, hsave] at hw
        exact .inl hw
    | ok result =>
      obtain ⟨version, store⟩ := result
      have hwrites : (served calls (order ++ [(i, outlet)])).writes =
          (served calls order).writes ++ [⟨i, calls i, ⟨c, version⟩⟩] := by
        rw [hstep]
        simp [proceed, hsave]
      refine ⟨_, _, h.extend (fun a ha => by cases ha) (h.leads.save (.ok version)) ?_ ?_ ?_⟩
      · rw [hstep]
        simp [proceed, goOn, hsave]
      · refine ⟨(CandidateStore.save_eq_ok_iff.1 hsave).2.1, ⟨i, calls i, ⟨c, version⟩⟩, ?_, rfl, rfl⟩
        refine mem_history.2 ⟨?_, rfl⟩
        rw [hwrites]
        simp
      · intro w hw
        rw [hwrites] at hw
        rcases List.mem_append.1 hw with hw | hw
        · exact .inl hw
        · obtain rfl := List.mem_singleton.1 hw
          exact .inr ⟨rfl, rfl⟩

/-- At every moment each client has a transcript. -/
theorem exists_transcript (calls : ι → Call) (order : List (ι × Except PublishError Unit)) (i : ι) :
    ∃ t rest, Transcript calls order i t rest := by
  induction order using List.reverseRecOn generalizing i with
  | nil =>
    refine ⟨[], (calls i).session, ⟨rfl, .refl, fun x hx => ?_, fun w hw => ?_, .inl rfl⟩⟩
    · cases hx
    · cases hw
  | append_singleton order turn ih =>
    obtain ⟨j, outlet⟩ := turn
    by_cases hij : i = j
    · subst hij
      obtain ⟨t, rest, h⟩ := ih i
      exact h.exists_concat outlet
    · obtain ⟨t, rest, h⟩ := ih i
      obtain ⟨_, _, hj⟩ := ih j
      exact ⟨t, rest, h.concat_of_ne hj.running hij⟩

end System

end Service

end PublicationIndicator
