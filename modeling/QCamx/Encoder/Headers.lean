import QCamx.Encoder.Cases

/-!
# The input headers of the encoder

Between `start` and the `stop` of the encoder a header is in a `READ` message, in the hands of the
in-flight thread, or with the component, unless the in-flight thread has dropped it: it does so
when `Read` fails and when `OMX_EmptyThisBuffer` does.

* `headerPlaces`: the headers that are somewhere;
* `headerPlaces_step`: a step moves headers, or drops one and counts the failure;
* **`headers_in_one_place`**: every header is in one place exactly when nothing has failed.
-/

namespace QCamx

/-- The header of a `READ` message. -/
def OmxMsgQ.header : OmxMsgQ → Option Header
  | read h => some h
  | loopExit => none

/-- The header in the hands of the in-flight thread. -/
def InFlightPc.header : InFlightPc → Option Header
  | read h | waitFrame h | copy h _ | submit h => some h
  | top | exited => none

namespace Encoder

variable {cfg : EncoderSetup} {s s' : Encoder}

/-- The headers in the `READ` messages of `m_infightQ`. -/
def readHeaders (s : Encoder) : List Header := s.infightQ.filterMap OmxMsgQ.header

/-- The headers that are somewhere; the last ones `start` has yet to post. -/
def headerPlaces (cfg : EncoderSetup) (s : Encoder) : List Header :=
  s.readHeaders ++ s.inFlightPc.header.toList ++ s.component ++ cfg.inbufs.drop s.started

/-- The encoder has not been stopped; the video-only case never stops it. -/
def Active (cfg : EncoderSetup) (s : Encoder) : Prop :=
  cfg.videoOnly = true ∨ s.stopPc = .running

/-- The times that the in-flight thread was left with a header it could not pass on. -/
def failures (s : Encoder) : ℕ := s.timeouts + s.rejected

/-! ## Steps -/

/-- Headers are moved, or one is dropped and the failure counted. -/
def MovesHeaders (cfg : EncoderSetup) (s s' : Encoder) : Prop :=
  s'.failures = s.failures ∧ (headerPlaces cfg s').Perm (headerPlaces cfg s) ∨
    s'.failures = s.failures + 1 ∧ ∃ h, (headerPlaces cfg s).Perm (h :: headerPlaces cfg s')

theorem MovesHeaders.congr (hqueue : s'.readHeaders = s.readHeaders)
    (hpc : s'.inFlightPc.header = s.inFlightPc.header) (hcomponent : s'.component = s.component)
    (hstarted : s'.started = s.started) (hfailures : s'.failures = s.failures) :
    MovesHeaders cfg s s' := by
  refine Or.inl ⟨hfailures, ?_⟩
  rw [headerPlaces, headerPlaces, hqueue, hpc, hcomponent, hstarted]

theorem headerPlaces_inFlightStep {a : InFlightAct} (hs : InFlightStep cfg s a s')
    (hqueue : s.bufferQueue ≠ none) : MovesHeaders cfg s s' := by
  cases hs with
  | @takeRead h q hpc hq =>
      refine Or.inl ⟨rfl, ?_⟩
      have hread : s.readHeaders = h :: q.filterMap OmxMsgQ.header := by
        rw [readHeaders, hq]
        rfl
      rw [headerPlaces, headerPlaces, hread, hpc]
      simp only [readHeaders, InFlightPc.header, Option.toList_some, Option.toList_none,
        List.append_nil, List.append_assoc]
      exact List.perm_middle
  | takeExit hpc hq =>
      refine .congr ?_ (by simp [hpc, InFlightPc.header]) rfl rfl rfl
      rw [readHeaders, readHeaders, hq]
      rfl
  | nullBuffer hpc | copy hpc => exact .congr rfl (by simp [hpc, InFlightPc.header]) rfl rfl rfl
  | readExit hpc hnone | deletedQueue hpc hnone => exact absurd hnone hqueue
  | deletedManager => exact .congr rfl rfl rfl rfl rfl
  | waitFrame hseeks | popFrame hseeks =>
      refine .congr rfl ?_ rfl rfl rfl
      obtain ⟨-, hpc, -⟩ | ⟨w, -, hpc, -⟩ := hseeks <;> rw [hpc] <;> rfl
  | @timeout h hpc =>
      refine Or.inr ⟨by simp only [failures]; omega, h, ?_⟩
      rw [headerPlaces, headerPlaces, hpc]
      simp only [readHeaders, InFlightPc.header, Option.toList_some, Option.toList_none,
        List.append_nil, List.append_assoc]
      exact List.perm_middle
  | @accept h hpc =>
      refine Or.inl ⟨rfl, ?_⟩
      rw [headerPlaces, headerPlaces, hpc]
      simp [readHeaders, InFlightPc.header]
  | @reject h hpc =>
      refine Or.inr ⟨by simp only [failures]; omega, h, ?_⟩
      rw [headerPlaces, headerPlaces, hpc]
      simp only [readHeaders, InFlightPc.header, Option.toList_some, Option.toList_none,
        List.append_nil, List.append_assoc]
      exact List.perm_middle

/-- **A step of an encoder that is not being stopped.** -/
theorem headerPlaces_step {a : EncoderAct} (hs : Step cfg s a s') (hactive : Active cfg s)
    (hst : Stages cfg s) : MovesHeaders cfg s s' := by
  have hstage : stage s.stopPc = 0 ∨ cfg.videoOnly = true ∧ 5 ≤ stage s.stopPc := by
    rcases hactive with hv | hpc
    · exact (hst.videoOnly hv).imp_right fun hle => ⟨hv, hle⟩
    · left
      rw [hpc]
      rfl
  cases hs with
  | @start h hh =>
      refine Or.inl ⟨rfl, ?_⟩
      have hdrop : cfg.inbufs.drop s.started = h :: cfg.inbufs.drop (s.started + 1) := by
        obtain ⟨hlt, rfl⟩ := List.getElem?_eq_some_iff.mp hh
        exact List.drop_eq_getElem_cons hlt
      have hread : (s.infightQ ++ [OmxMsgQ.read h]).filterMap OmxMsgQ.header =
          s.readHeaders ++ [h] := by
        rw [List.filterMap_append]
        rfl
      rw [headerPlaces, headerPlaces, hdrop, readHeaders, hread]
      simp only [List.append_assoc, List.singleton_append]
      refine List.Perm.append_left _ ?_
      rw [← List.append_assoc, ← List.append_assoc]
      exact List.perm_middle.symm
  | inFlight hs =>
      refine headerPlaces_inFlightStep hs fun hnone => ?_
      have hqueue := hst.queue.mp hnone
      rcases hstage with h0 | ⟨hv, -⟩
      · omega
      · rw [hv] at hqueue
        exact absurd hqueue.1 (by simp)
  | @emptyDone h hh =>
      refine Or.inl ⟨rfl, ?_⟩
      have hread : (s.infightQ ++ [OmxMsgQ.read h]).filterMap OmxMsgQ.header =
          s.readHeaders ++ [h] := by
        rw [List.filterMap_append]
        rfl
      rw [headerPlaces, headerPlaces, readHeaders, hread]
      simp only [List.append_assoc, List.singleton_append]
      refine List.Perm.append_left _ ?_
      refine (List.perm_middle.symm).trans (List.Perm.append_left _ ?_)
      rw [← List.cons_append]
      exact List.Perm.append_right _ (List.perm_cons_erase hh).symm
  | result hs => cases hs <;> exact .congr rfl rfl rfl rfl rfl
  | stop hs =>
      cases hs with
      | beginVideoOnly | begin | joinResult | delete => exact .congr rfl rfl rfl rfl rfl
      | flush hpc | postExit hpc | joinInFlight hpc | drain hpc | deleteQueue hpc | giveBack hpc =>
          rw [hpc] at hstage
          simp at hstage

/-! ## Runs -/

/-- The headers that are somewhere are the port's, each once; the others are the failures. -/
structure HeaderInv (cfg : EncoderSetup) (s : Encoder) : Prop where
  subperm : (headerPlaces cfg s).Subperm cfg.inbufs
  length : (headerPlaces cfg s).length + s.failures = cfg.inbufs.length

theorem HeaderInv.moves (h : HeaderInv cfg s) (hm : MovesHeaders cfg s s') : HeaderInv cfg s' := by
  obtain ⟨hsub, hlen⟩ := h
  rcases hm with ⟨hf, hp⟩ | ⟨hf, x, hp⟩
  · refine ⟨hp.subperm.trans hsub, ?_⟩
    rw [hp.length_eq, hf]
    exact hlen
  · refine ⟨((List.sublist_cons_self x _).subperm.trans hp.symm.subperm).trans hsub, ?_⟩
    rw [hp.length_eq, List.length_cons] at hlen
    rw [hf]
    omega

theorem Active.of_step {a : EncoderAct} (hs : Step cfg s a s') (h : Active cfg s') :
    Active cfg s := by
  rcases h with hv | hpc
  · exact Or.inl hv
  · right
    cases hs with
    | start | emptyDone => exact hpc
    | inFlight hs => cases hs <;> exact hpc
    | result hs => cases hs <;> exact hpc
    | stop hs => cases hs <;> cases hpc

theorem headerInv {ok : EncoderAct → Encoder → Prop} (h : Run cfg ok s) (hactive : Active cfg s) :
    HeaderInv cfg s := by
  have hinv : Stages cfg s ∧ (Active cfg s → HeaderInv cfg s) := by
    refine Run.invariant (P := fun s => Stages cfg s ∧ (Active cfg s → HeaderInv cfg s)) h ?_ ?_
    · exact ⟨.init cfg, fun _ => ⟨List.Subperm.refl _, rfl⟩⟩
    · intro s a s' hi _ _ hs
      refine ⟨hi.1.step hs, fun hactive' => ?_⟩
      have hactive := hactive'.of_step hs
      exact (hi.2 hactive).moves (headerPlaces_step hs hactive hi.1)
  exact hinv.2 hactive

/-- A header is in exactly one place. -/
def InOnePlace (s : Encoder) (h : Header) : Prop :=
  s.readHeaders.count h + s.inFlightPc.header.toList.count h + s.component.count h = 1

instance (s : Encoder) (h : Header) : Decidable (InOnePlace s h) := instDecidableEqNat _ _

/-- **Between `start` and `stop` every header is in exactly one place, if and only if no wait of
`Read` has timed out and the component has accepted every header.** -/
theorem headers_in_one_place {ok : EncoderAct → Encoder → Prop} (h : Run cfg ok s)
    (hstarted : s.started = cfg.inbufs.length) (hactive : Active cfg s) :
    (∀ x ∈ cfg.inbufs, InOnePlace s x) ↔ s.timeouts = 0 ∧ s.rejected = 0 := by
  obtain ⟨hsub, hlen⟩ := headerInv h hactive
  have hplaces : headerPlaces cfg s =
      s.readHeaders ++ s.inFlightPc.header.toList ++ s.component := by
    rw [headerPlaces, hstarted, List.drop_length, List.append_nil]
  have hcount : ∀ x, InOnePlace s x ↔ (headerPlaces cfg s).count x = 1 := by
    intro x
    rw [hplaces, List.count_append, List.count_append]
    exact Iff.rfl
  have hfailures : s.timeouts = 0 ∧ s.rejected = 0 ↔ s.failures = 0 := by
    rw [failures]
    omega
  rw [hfailures]
  constructor
  · intro hall
    -- every header of the port is somewhere, so the places are as many as the headers
    have hsub' : cfg.inbufs.Subperm (headerPlaces cfg s) := by
      refine List.subperm_of_subset cfg.nodup_inbufs fun x hx => ?_
      have hone := (hcount x).mp (hall x hx)
      exact List.count_pos_iff.mp (by omega)
    have hle := hsub'.length_le
    omega
  · intro hzero x hx
    have hperm : (headerPlaces cfg s).Perm cfg.inbufs :=
      hsub.perm_of_length_le (by omega)
    rw [hcount, hperm.count_eq]
    exact List.count_eq_one_of_mem cfg.nodup_inbufs hx

/-! ## One header -/

theorem header_in_component :
    ∃ s, Run (oneHeader false) (fun _ _ => True) s ∧ s.component = [1] ∧ InOnePlace s 1 := by
  obtain ⟨s, hr, hstarted, hpc, hcomponent, hfailures⟩ :
      ∃ s, Run (oneHeader false) (fun _ _ => True) s ∧ s.started = 1 ∧ s.stopPc = .running ∧
        s.component = [1] ∧ s.timeouts = 0 ∧ s.rejected = 0 :=
    Guarded.Reachable.exists_of_exec
      [.start, .inFlight .take, .inFlight .read, .result (.deliver 7), .result .push,
        .inFlight (.wake .signal), .inFlight .copy, .inFlight (.submit true)] (by decide +kernel)
  have hall := (headers_in_one_place hr hstarted (Or.inr hpc)).mpr hfailures
  exact ⟨s, hr, hcomponent, hall 1 (List.mem_singleton_self 1)⟩

/-- A camera that pauses for longer than the wait of `Read` costs the encoder a header. -/
theorem header_lost_by_timeout :
    ¬ ∀ (cfg : EncoderSetup) (s : Encoder), Run cfg (fun _ _ => True) s →
      s.started = cfg.inbufs.length → Active cfg s → ∀ x ∈ cfg.inbufs, InOnePlace s x := by
  intro h
  obtain ⟨s, hr, hstarted, hpc, hplace⟩ :
      ∃ s, Run (oneHeader false) (fun _ _ => True) s ∧ s.started = 1 ∧ s.stopPc = .running ∧
        ¬ InOnePlace s 1 :=
    Guarded.Reachable.exists_of_exec
      [.start, .inFlight .take, .inFlight .read, .inFlight (.wake .timeout)] (by decide +kernel)
  exact hplace (h (oneHeader false) s hr hstarted (Or.inr hpc) 1 (List.mem_singleton_self 1))

end Encoder

end QCamx
