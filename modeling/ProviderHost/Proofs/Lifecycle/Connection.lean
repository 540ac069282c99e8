import ProviderHost.Proofs.Correlator.Closing
import ProviderHost.Proofs.Lifecycle.Rounds
import ProviderHost.Proofs.Transport.Splitting

/-!
# Connections that were closed

A connection that the host has closed is at its end: nobody is connected, every request has its
outcome, and new ones are refused. Nothing that is done to an instance marks a connection as closed
in another way (`IsSound`), from the attempt to start it to its last round.
-/

namespace ProviderHost

namespace Transport

structure IsEnded (t : Transport) : Prop where
  closed : t.closed = true
  disconnected : t.connected = false
  settled : t.requests.Settled
  refuses : t.requests.closed.isSome

/-- A connection is not marked as closed before its end. -/
def IsSound (t : Transport) : Prop := t.closed = true → t.IsEnded

variable {t : Transport}

theorem IsSound.of_open (opened : t.closed = false) : t.IsSound :=
  fun closed => absurd closed (by rw [opened]; exact Bool.false_ne_true)

theorem IsSound.isEnded_close (sound : t.IsSound) : t.close.1.IsEnded := by
  unfold close
  split
  · rename_i closed
    exact sound closed
  · exact ⟨rfl, rfl, Correlator.settled_close _ _, Correlator.isSome_close _ _⟩

theorem IsSound.greeted (sound : t.IsSound) (greeted : Bool) (server : ServerInfo) :
    IsSound { t with greeted := greeted, server := server } := fun closed =>
  ⟨closed, (sound closed).disconnected, (sound closed).settled, (sound closed).refuses⟩

end Transport

namespace Instance

/-- The connection of an instance is not marked as closed before its end. -/
def IsSound (i : Instance) : Prop := ∀ t, i.transport = some t → t.IsSound

variable {δ κ : Type} {i j : Instance}

theorem IsSound.of_none (unconnected : i.transport = none) : i.IsSound := by
  intro t present
  rw [unconnected] at present
  cases present

theorem IsSound.of_open {t : Transport} (connection : i.transport = some t)
    (opened : t.closed = false) : i.IsSound := by
  intro t' present
  rw [connection] at present
  cases present
  exact .of_open opened

theorem IsSound.of_transport (sound : i.IsSound) (same : j.transport = i.transport) : j.IsSound :=
  fun t present => sound t (same ▸ present)

theorem IsSound.at_stage (sound : i.IsSound) {stage : Lifecycle}
    (changed : j = { i with stage := stage }) : j.IsSound := by
  subst changed
  exact sound

theorem IsSound.of_map (sound : i.IsSound) {f : Transport → Transport}
    (keeps : ∀ t : Transport, t.IsSound → (f t).IsSound)
    (mapped : j.transport = i.transport.map f) : j.IsSound := by
  intro t present
  rw [mapped] at present
  obtain ⟨t₀, present₀, rfl⟩ := Option.map_eq_some_iff.mp present
  exact keeps t₀ (sound t₀ present₀)

theorem IsSound.of_close (sound : i.IsSound)
    (closed : j.transport = i.transport.map fun t => t.close.1) : j.IsSound :=
  sound.of_map (fun _ sound _ => sound.isEnded_close) closed

theorem transport_absorb (i : Instance) (j : Journal) (events : List ReaderEvent) :
    (i.absorb j events).1.transport = i.transport := by
  obtain ⟨r, absorbed⟩ := i.absorb_frame j events
  rw [absorbed]

variable [Kernel κ]

theorem IsSound.of_child (sound : i.IsSound) (changed : ∃ c, j = { i with child := c }) :
    j.IsSound := by
  obtain ⟨c, rfl⟩ := changed
  exact sound

theorem IsSound.readLines (sound : i.IsSound) (site : Site δ) (w : World κ) :
    (i.readLines site w).1.IsSound := by
  unfold Instance.readLines readOutput
  cases child : i.child with
  | none => exact sound
  | some c =>
    cases present : i.transport with
    | none => exact sound
    | some t =>
      dsimp only
      cases closed : t.closed with
      | true => exact sound
      | false =>
        intro t' kept
        simp only [Bool.false_eq_true, if_false, transport_absorb] at kept
        cases kept
        exact .of_open (t.iterate_round site.decode closed _ _ [] []).closed

/-! ### The monitor and the end -/

theorem Ticked.isSound (ticked : Ticked i j) (sound : i.IsSound) : j.IsSound := by
  cases ticked with
  | abandoned phase ring => exact sound.of_close rfl
  | _ => exact sound.of_transport rfl

section

variable [Document δ] (site : Site δ) (w : World κ)

theorem IsSound.monitorStep (sound : i.IsSound) : (i.monitorStep site w).1.IsSound :=
  (monitorStep_ticked site i w).isSound sound

theorem IsSound.monitorSteps (sound : i.IsSound) (n : Nat) : (i.monitorSteps site n w).1.IsSound :=
  monitorSteps_preserves site (fun _ w sound => sound.monitorStep site w) n w sound

theorem IsSound.monitorRound (sound : i.IsSound) : (i.monitorRound site w).1.IsSound := by
  unfold Instance.monitorRound
  split
  · exact sound
  · exact (sound.monitorStep site w).monitorSteps site _ roundLength

theorem IsSound.joinMonitor (sound : i.IsSound) : (i.joinMonitor site w).1.IsSound := by
  have asked : IsSound { i with monitor := { i.monitor with stopping := true } } :=
    sound.of_transport rfl
  exact (asked.monitorSteps site w roundLength).monitorStep site _

omit [Document δ] in
theorem IsSound.dismiss (sound : i.IsSound) (s : Settings) : (i.dismiss s w).1.IsSound := by
  have parted {j : Instance}
      (same : j.transport = i.transport.map fun t => { t with greeted := false }) : j.IsSound :=
    sound.of_map (fun t sound => sound.greeted false t.server) same
  unfold Instance.dismiss
  split
  · split
    · split <;> exact parted rfl
    · exact sound
  · exact sound

omit [Document δ] in
theorem IsSound.isEnded_disconnect (sound : i.IsSound) :
    ∀ t, (i.disconnect w).1.transport = some t → t.IsEnded := by
  obtain ⟨r, closed⟩ := i.disconnect_frame w
  intro t present
  rw [closed] at present
  obtain ⟨t₀, present₀, rfl⟩ := Option.map_eq_some_iff.mp present
  exact (sound t₀ present₀).isEnded_close

/-! ### The attempt to start -/

omit [Document δ] in
theorem isSound_connect (d : Definition) (sound : i.IsSound) :
    (i.connect site d w).2.1.IsSound := by
  unfold connect launchProcess connectProcess connectNetwork
  split
  · dsimp only
    split
    · exact sound
    · split
      · exact sound
      · dsimp only
        split
        · exact sound.of_transport rfl
        · exact .of_open rfl rfl
  · dsimp only
    split
    · exact sound
    · exact .of_open rfl rfl

omit [Document δ] in
theorem isSound_greet (sound : i.IsSound) : (i.greet site w).2.1.IsSound := by
  unfold greet
  split
  · exact sound
  · split
    · rename_i server k _
      exact sound.of_map (fun t sound => sound.greeted true server) rfl
    · rename_i cause k _
      have read := sound.readLines site { w with kernel := k }
      dsimp only
      generalize i.readLines site { w with kernel := k } = made at read ⊢
      obtain ⟨j, w'⟩ := made
      unfold explainSilence
      dsimp only
      split
      · exact read
      · split <;> exact read.of_transport rfl

omit [Document δ] in
theorem isSound_establish (d : Definition) (sound : i.IsSound) :
    (i.establish site d w).2.1.IsSound := by
  have connected := isSound_connect site w d sound
  unfold establish
  split
  · rename_i cause j w' made
    rw [made] at connected
    exact connected
  · rename_i note i₁ w₁ made
    rw [made] at connected
    have greeted := isSound_greet site w₁ connected
    split
    · rename_i cause j w' made
      rw [made] at greeted
      exact greeted
    · rename_i i₂ w₂ made
      rw [made] at greeted
      have ready : (i₂.awaitReady site.settings w₂).2.1.IsSound :=
        greeted.of_child (i₂.awaitUntil_frame site.settings _ w₂.journal w₂.kernel)
      split <;> rename_i made <;> rw [made] at ready <;> exact ready

theorem isSound_attempt {d : Definition} {note : Text} {w' : World κ}
    (started : attempt site d w = (.ok note, i, w')) : i.IsSound := by
  have fresh := transition_frame site .starting (ofDefinition site.settings d) w
  have blank : (ofDefinition site.settings d).IsSound := .of_none rfl
  unfold attempt at started
  generalize (ofDefinition site.settings d).transition site .starting w = made at fresh started
  obtain ⟨i₀, w₀⟩ := made
  have begun : i₀.IsSound := blank.at_stage fresh
  have established := isSound_establish site w₀ d begun
  dsimp only at started
  split at started
  · cases started
  · rename_i note' i₁ w₁ made
    rw [made] at established
    have running := transition_frame site .running i₁ w₁
    generalize i₁.transition site .running w₁ = changed at started running
    obtain ⟨i₂, w₂⟩ := changed
    cases started
    exact established.at_stage running

end

end Instance

end ProviderHost
