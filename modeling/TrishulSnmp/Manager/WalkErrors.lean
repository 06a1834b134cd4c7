import TrishulSnmp.Manager.Walk

namespace TrishulSnmp.Manager

variable {α : Type} {agent : Agent α} {root : OID} {maxRepetitions : Option ℤ} {world : α}

def CollectedFrom (agent : Agent α) (root : OID) (maxRepetitions : Option ℤ) (world : α) (response : Response)
    (varbind : VarBind) : Prop :=
  ∃ requests state a position state',
    Moment agent root maxRepetitions world requests state a (.reading response position) ∧
    response.varbinds[position]? = some varbind ∧ collect root state varbind = some state'

def CollectsClean (agent : Agent α) (root : OID) (maxRepetitions : Option ℤ) (world : α) : Prop :=
  ∀ response varbind, CollectedFrom agent root maxRepetitions world response varbind →
    response.errorStatus = .noError ∧ root < varbind.oid

def ReturnsClean (agent : Agent α) (root : OID) (maxRepetitions : Option ℤ) (world : α) : Prop :=
  ∀ allowance results requests, walkSubtree agent root maxRepetitions allowance world = .returned results requests →
    ∀ varbind ∈ results, root < varbind.oid ∧ ∃ response, response.errorStatus = .noError ∧
      CollectedFrom agent root maxRepetitions world response varbind

/-- Whatever the agent answers a request of the walk with, its first varbind is refused by the checks
or does not stand for an error: it is not in a response with an error status, nor is it the root. -/
def AnswersClean (agent : Agent α) (root : OID) (maxRepetitions : Option ℤ) (world : α) : Prop :=
  ∀ requests state a response a' varbind varbinds, Moment agent root maxRepetitions world requests state a .awaiting →
    agent a { current := state.current, maxRepetitions := maxRepetitions } = .ok (response, a') →
    response.varbinds = varbind :: varbinds → (collect root state varbind).isSome →
    response.errorStatus = .noError ∧ varbind.oid ≠ root

theorem prefix_le {root oid : OID} (h : root <+: oid) : root ≤ oid := by
  obtain ⟨rest, rfl⟩ := h
  rw [← not_lt]
  induction root with
  | nil => exact List.not_lt_nil _
  | cons arc root ih =>
    rw [List.cons_append, List.cons_lt_cons_iff]
    rintro (hlt | ⟨-, hlt⟩)
    · exact lt_irrefl _ hlt
    · exact ih hlt

def Phase.Clean (root : OID) (state : WalkState) : Phase → Prop
  | reading response 0 => ∀ varbind varbinds, response.varbinds = varbind :: varbinds →
      (collect root state varbind).isSome → response.errorStatus = .noError ∧ varbind.oid ≠ root
  | reading response (_ + 1) => response.errorStatus = .noError ∧ state.results ≠ []
  | _ => True

theorem collect_clean {state state' : WalkState} {response : Response} {position : ℕ} {varbind : VarBind}
    (hinv : state.Inv root) (hresults : ∀ varbind ∈ state.results, root < varbind.oid)
    (hclean : (Phase.reading response position).Clean root state) (hget : response.varbinds[position]? = some varbind)
    (h : collect root state varbind = some state') : response.errorStatus = .noError ∧ root < varbind.oid := by
  obtain ⟨-, hroot, hlast, -⟩ := collect_eq_some_iff.mp h
  cases position with
  | zero =>
    obtain ⟨varbinds, hvarbinds⟩ : ∃ varbinds, response.varbinds = varbind :: varbinds := by
      cases hbatch : response.varbinds with
      | nil => simp [hbatch] at hget
      | cons first varbinds =>
        obtain rfl : first = varbind := by simpa [hbatch] using hget
        exact ⟨varbinds, rfl⟩
    obtain ⟨hstatus, hne⟩ := hclean varbind varbinds hvarbinds (by rw [h]; rfl)
    exact ⟨hstatus, lt_of_le_of_ne (prefix_le hroot) hne.symm⟩
  | succ position =>
    obtain ⟨hstatus, hne⟩ := hclean
    refine ⟨hstatus, ?_⟩
    obtain ⟨last, hgetLast⟩ := Option.isSome_iff_exists.mp (List.getLast?_isSome.mpr hne)
    have hlt := hlast last.oid (by rw [hinv.lastOid, hgetLast]; rfl)
    exact (hresults last (List.mem_of_getLast? hgetLast)).trans hlt

theorem Moment.clean (hagent : AnswersClean agent root maxRepetitions world) {requests : ℕ} {state : WalkState} {a : α}
    {phase : Phase} (h : Moment agent root maxRepetitions world requests state a phase) :
    (∀ varbind ∈ state.results, root < varbind.oid) ∧ phase.Clean root state := by
  induction h with
  | start => exact ⟨by simp [WalkState.start], trivial⟩
  | send _ ih => exact ⟨ih.1, trivial⟩
  | receive hawaiting hanswer ih =>
    exact ⟨ih.1, fun varbind varbinds => hagent _ _ _ _ _ varbind varbinds hawaiting hanswer⟩
  | collect hreading hget hcollect ih =>
    obtain ⟨hstatus, hlt⟩ := collect_clean hreading.inv.1 ih.1 ih.2 hget hcollect
    have hresults := (collect_eq_some_iff.mp hcollect).2.2.2
    rw [hresults]
    exact ⟨by simpa [or_imp, forall_and] using ⟨ih.1, hlt⟩, hstatus, by simp⟩
  | again _ _ ih => exact ⟨ih.1, trivial⟩

theorem Moment.collectedFrom {requests : ℕ} {state : WalkState} {a : α} {phase : Phase}
    (h : Moment agent root maxRepetitions world requests state a phase) :
    ∀ varbind ∈ state.results, ∃ response, CollectedFrom agent root maxRepetitions world response varbind := by
  induction h with
  | start => simp [WalkState.start]
  | send _ ih => exact ih
  | receive _ _ ih => exact ih
  | collect hreading hget hcollect ih =>
    have hresults := (collect_eq_some_iff.mp hcollect).2.2.2
    rw [hresults]
    simp only [List.mem_append, List.mem_singleton]
    rintro varbind (hmem | rfl)
    · exact ih varbind hmem
    · exact ⟨_, _, _, _, _, _, hreading, hget, hcollect⟩
  | again _ _ ih => exact ih

theorem collectsClean_of_answersClean (h : AnswersClean agent root maxRepetitions world) :
    CollectsClean agent root maxRepetitions world := by
  rintro response varbind ⟨requests, state, a, position, state', hmoment, hget, hcollect⟩
  obtain ⟨hresults, hclean⟩ := hmoment.clean h
  exact collect_clean hmoment.inv.1 hresults hclean hget hcollect

theorem answersClean_of_collectsClean (h : CollectsClean agent root maxRepetitions world) :
    AnswersClean agent root maxRepetitions world := by
  intro requests state a response a' varbind varbinds hawaiting hanswer hvarbinds hsome
  obtain ⟨state', hcollect⟩ := Option.isSome_iff_exists.mp hsome
  have hget : response.varbinds[0]? = some varbind := by rw [hvarbinds]; rfl
  obtain ⟨hstatus, hlt⟩ := h response varbind ⟨_, _, _, _, _, hawaiting.receive hanswer, hget, hcollect⟩
  exact ⟨hstatus, hlt.ne'⟩

theorem walk_clean_iff (agent : Agent α) (root : OID) (maxRepetitions : Option ℤ) (world : α) :
    (CollectsClean agent root maxRepetitions world ↔ AnswersClean agent root maxRepetitions world) ∧
      (AnswersClean agent root maxRepetitions world → ReturnsClean agent root maxRepetitions world) := by
  refine ⟨⟨answersClean_of_collectsClean, collectsClean_of_answersClean⟩, ?_⟩
  intro h allowance results requests hreturned varbind hmem
  obtain ⟨state, a, phase, hmoment, rfl⟩ := moment_of_returned .start hreturned
  obtain ⟨response, hfrom⟩ := hmoment.collectedFrom varbind hmem
  obtain ⟨hstatus, hlt⟩ := collectsClean_of_answersClean h response varbind hfrom
  exact ⟨hlt, response, hstatus, hfrom⟩

def echoingAgent : Agent Unit := fun world request =>
  .ok ({ requestId := 1, errorStatus := .genErr, errorIndex := 1,
         varbinds := [{ oid := request.current, value := .nullValue }] }, world)

theorem error_presented_as_data : walkSubtree echoingAgent [1, 3, 6] (some 10) 2 () =
      .returned [{ oid := [1, 3, 6], value := .nullValue }] 2 ∧
    ¬ ReturnsClean echoingAgent [1, 3, 6] (some 10) () := by
  have hreturned : walkSubtree echoingAgent [1, 3, 6] (some 10) 2 () =
      .returned [{ oid := [1, 3, 6], value := .nullValue }] 2 := by decide
  refine ⟨hreturned, fun h => ?_⟩
  obtain ⟨hlt, -⟩ := h _ _ _ hreturned _ (List.mem_singleton_self _)
  exact lt_irrefl _ hlt

end TrishulSnmp.Manager
