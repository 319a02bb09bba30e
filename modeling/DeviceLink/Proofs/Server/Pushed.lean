-- What is pushed to a connection, by whomever, and what its writer makes of it. The writer passes
-- the frames on in the order in which they were accepted, until it goes; then what it had passed on
-- is a first part of them.
import DeviceLink.Proofs.Server.Owed

namespace DeviceLink.Server

open Registry (Operation accepted gather grows_after accepted_after_of_closed)

/-! ## What is pushed -/

section

variable (acts : Request → Registry → List Operation)

/-- The frames that are accepted for a connection at a moment, if its number was given out. -/
def Moment.pushedTo (m : Moment) (k : ConnId) : List Bytes :=
  if k < m.server.registry.nextConn then gather (accepted k) m.server.registry (m.operations acts)
  else []

/-- The frames that were accepted for a connection in a story, first one first. -/
def pushed (story : List Moment) (k : ConnId) : List Bytes := story.flatMap (·.pushedTo acts k)

/-- Nobody but its writer takes what waits for a connection. -/
def Untouched (story : List Moment) (k : ConnId) : Prop :=
  ∀ m ∈ story, ∀ op ∈ m.foreign acts, op.takes k = false

end

/-- What a writer has passed on of the frames that were accepted for its connection. -/
inductive InTurn (frames : List Bytes) (r : Registry) (k : ConnId) (sent : List Bytes) : Prop
  | whole (there : r.isOpen k = true) (all : sent ++ (r.line k).queue = frames)
  | cut (gone : r.isOpen k = false) (nothing : (r.line k).queue = []) (first : sent <+: frames)

/-- What a moment does to the line of a connection, and to what was written to it. -/
inductive Flow (acts : Request → Registry → List Operation) (m : Moment) (k : ConnId)
    (sent sent' : List Bytes) : Prop
  | keep (same : sent' = sent) (kept : ∀ op ∈ m.operations acts, op.takes k = false)
  | write (operations : m.operations acts = [.drain k])
      (written : sent' = sent ++ (m.server.registry.line k).queue)
  | part (operations : m.operations acts = [.dropWriter k])
      (written : sent' = sent ∨ sent' = sent ++ (m.server.registry.line k).queue)

variable {acts : Request → Registry → List Operation} {start s s' : Server} {e : Event}
  {story : List Moment} {m : Moment} {c : ClientId} {conn conn' : Connection} {h h' : Handle}
  {place : Place} {k : ConnId} {op : Operation} {r : Registry} {frames sent sent' : List Bytes}

theorem pushed_concat (story : List Moment) (m : Moment) (k : ConnId) :
    pushed acts (story ++ [m]) k = pushed acts story k ++ m.pushedTo acts k := by
  simp [pushed]

/-! ## One line -/

theorem InTurn.starts (inTurn : InTurn frames r k sent) : sent <+: frames := by
  cases inTurn with
  | whole there all => exact ⟨_, all⟩
  | cut gone nothing first => exact first

theorem InTurn.keep {ops : List Operation} (inTurn : InTurn frames r k sent)
    (kept : ∀ op ∈ ops, op.takes k = false) (old : k < r.nextConn) :
    InTurn (frames ++ gather (accepted k) r ops) (r.after ops) k sent := by
  have grows := grows_after kept old
  cases inTurn with
  | whole there all =>
    refine .whole (grows.isOpen.trans there) ?_
    rw [grows.queue, ← List.append_assoc, all]
  | cut gone nothing first =>
    have refused := accepted_after_of_closed gone kept old
    rw [refused] at grows ⊢
    refine .cut (grows.isOpen.trans gone) ?_ ?_
    · rw [grows.queue, nothing, List.append_nil]
    · rwa [List.append_nil]

theorem InTurn.write (inTurn : InTurn frames r k sent) :
    InTurn frames (r.drain k).2 k (sent ++ (r.line k).queue) := by
  have line := r.line_drain k k
  rw [if_pos rfl] at line
  cases inTurn with
  | whole there all =>
    refine .whole ?_ ?_
    · exact (congrArg Line.writer line).trans there
    · rw [line, all, List.append_nil]
  | cut gone nothing first =>
    refine .cut ?_ ?_ ?_
    · exact (congrArg Line.writer line).trans gone
    · rw [line]
    · rwa [nothing, List.append_nil]

/-- When the writer goes, it may pass on what waits, or lose it. -/
theorem InTurn.part (inTurn : InTurn frames r k sent)
    (written : sent' = sent ∨ sent' = sent ++ (r.line k).queue) :
    InTurn frames (r.dropWriter k) k sent' := by
  have line := r.line_dropWriter k k
  have gone : (r.dropWriter k).isOpen k = false := by
    rw [Registry.isOpen, line]
    simp
  have nothing : ((r.dropWriter k).line k).queue = [] := by
    rw [line]
    exact if_pos rfl
  refine .cut gone nothing ?_
  have all : sent ++ (r.line k).queue <+: frames := by
    cases inTurn with
    | whole there all => exact all ▸ List.prefix_refl _
    | cut gone nothing first => rwa [nothing, List.append_nil]
  rcases written with rfl | rfl
  · exact (List.prefix_append _ _).trans all
  · exact all

theorem InTurn.flow (inTurn : InTurn frames m.server.registry k sent)
    (flow : Flow acts m k sent sent') (old : k < m.server.registry.nextConn)
    (registry : s'.registry = m.server.registry.after (m.operations acts)) :
    InTurn (frames ++ m.pushedTo acts k) s'.registry k sent' := by
  rw [registry, Moment.pushedTo, if_pos old]
  cases flow with
  | keep same kept =>
    rw [same]
    exact inTurn.keep kept old
  | write operations written =>
    have nothing : gather (accepted k) m.server.registry [.drain k] = [] := rfl
    rw [operations, written, nothing, List.append_nil]
    exact inTurn.write
  | part operations written =>
    have nothing : gather (accepted k) m.server.registry [.dropWriter k] = [] := rfl
    rw [operations, nothing, List.append_nil]
    exact inTurn.part written

/-! ## The moments of a connection -/

/-- What a connection does as it moves on takes nothing from a line, unless its writer is done. -/
theorem kept_doings (called : place = .greeted ∨ place = .departed → op.takes k = false)
    (parted : place = .parted → h'.conn ≠ k) (member : op ∈ s.doings h' place) :
    op.takes k = false := by
  cases place with
  | greeted => exact called (.inl rfl)
  | departed => exact called (.inr rfl)
  | parted =>
    obtain rfl := List.mem_singleton.1 member
    exact beq_eq_false_iff_ne.2 (parted rfl)
  | judged replaced =>
    cases replaced with
    | true => cases member
    | false =>
      obtain rfl := List.mem_singleton.1 member
      rfl
  | ready => cases member
  | waiting => cases member
  | removed => cases member
  | _ =>
    obtain rfl := List.mem_singleton.1 member
    rfl

theorem kept_intake (foreign : ∀ op ∈ Moment.foreign acts ⟨s, .read c⟩, op.takes k = false)
    (member : op ∈ s.intake c) : op.takes k = false := by
  unfold intake at member
  split at member
  · cases member
  · rename_i conn found
    split at member
    · obtain ⟨device, _, rfl⟩ := List.mem_map.1 member
      rfl
    · rename_i h' decoded stage
      have ready := ready?_of_waiting found stage
      rw [decoded] at ready
      split at member
      · rename_i sink called
        refine foreign op ?_
        simpa only [Moment.foreign, called, ready, Option.map_some] using member
      · obtain rfl := List.mem_singleton.1 member
        rfl
    · cases member

/-- Only a writer takes what waits for its connection. -/
theorem kept_operations (foreign : ∀ op ∈ m.foreign acts, op.takes k = false)
    (idle : ∀ h', m.writes? = some h' → h'.conn ≠ k) :
    ∀ op ∈ m.operations acts, op.takes k = false := by
  obtain ⟨s, e⟩ := m
  intro op member
  cases e with
  | operate op' => exact foreign op member
  | exchange source => exact foreign op member
  | read c' => exact kept_intake foreign member
  | finishStop =>
    obtain rfl := List.mem_singleton.1 member
    rfl
  | noticeClose c' =>
    obtain ⟨h', _, rfl⟩ := List.mem_map.1 member
    rfl
  | write c' =>
    obtain ⟨h', handle, rfl⟩ := List.mem_map.1 member
    exact beq_eq_false_iff_ne.2 (idle h' (Option.mem_toList.1 handle))
  | failWrite c' =>
    obtain ⟨h', handle, rfl⟩ := List.mem_map.1 member
    exact beq_eq_false_iff_ne.2 (idle h' (Option.mem_toList.1 handle))
  | proceed c' =>
    cases stands : s.standing? c' with
    | none => simp [Moment.operations, stands] at member
    | some x =>
      obtain ⟨h', place⟩ := x
      have doings : Moment.operations acts ⟨s, .proceed c'⟩ = s.doings h' place := by
        simp [Moment.operations, stands]
      refine kept_doings (fun called => foreign op ?_) (fun parted => idle h' ?_)
        (doings ▸ member)
      · rcases called with rfl | rfl
        · simpa only [Moment.foreign, stands] using member
        · simpa only [Moment.foreign, stands] using member
      · rw [parted] at stands
        simp only [Moment.writes?, stands]
  | expire c' =>
    unfold Moment.operations at member
    dsimp only at member
    split at member
    · rename_i h' stands
      obtain rfl := List.mem_singleton.1 member
      refine beq_eq_false_iff_ne.2 (idle h' ?_)
      simp only [Moment.writes?, stands]
    · cases member
  | _ => cases member

/-- What any moment does to a connection. -/
theorem Transition.flow (t : Transition s e s') (found : s.connections[c]? = some conn)
    (found' : s'.connections[c]? = some conn') (own : ∀ h', conn.handle? = some h' → h'.conn = k)
    (others : ∀ c' h', c' ≠ c → s.handleOf? c' = some h' → h'.conn ≠ k)
    (foreign : ∀ op ∈ Moment.foreign acts ⟨s, e⟩, op.takes k = false) :
    Flow acts ⟨s, e⟩ k conn.sent conn'.sent := by
  by_cases idle : e.client? = some c → Moment.writes? ⟨s, e⟩ = none
  · refine .keep (t.sent_of_idle idle found found') (kept_operations foreign fun h' writes => ?_)
    obtain ⟨c', client, handle⟩ := client?_of_writes? writes
    refine others c' h' (fun same => ?_) handle
    cases (idle (same ▸ client)).symm.trans writes
  · obtain ⟨turn, writes⟩ := Classical.not_imp.1 idle
    have set : ∀ {conn₀ : Connection}, s'.connections = s.connections.set c conn₀ →
        conn'.sent = conn₀.sent := by
      intro conn₀ connections
      rw [connections, List.getElem?_set_self (List.getElem?_eq_some_iff.1 found).1] at found'
      cases found'
      rfl
    cases t with
    | part found₀ stage =>
      obtain ⟨rfl, rfl⟩ := same_of_client? turn found rfl found₀
      obtain rfl := own _ (handle?_of_stage stage)
      refine .part ?_ (.inr (set rfl))
      simp only [Moment.operations, standing?_of_found found stage]
      rfl
    | abort found₀ stage =>
      obtain ⟨rfl, rfl⟩ := same_of_client? turn found rfl found₀
      obtain rfl := own _ (handle?_of_stage stage)
      refine .part ?_ (.inl ((set rfl).trans (List.append_nil _)))
      simp only [Moment.operations, standing?_of_found found stage]
    | write found₀ handle =>
      obtain ⟨rfl, rfl⟩ := same_of_client? turn found rfl found₀
      obtain rfl := own _ handle
      refine .write ?_ (set rfl)
      simp [Moment.operations, handleOf?_of_found found handle]
    | failWrite found₀ handle =>
      obtain ⟨rfl, rfl⟩ := same_of_client? turn found rfl found₀
      obtain rfl := own _ handle
      cases found.symm.trans found'
      refine .part ?_ (.inl rfl)
      simp [Moment.operations, handleOf?_of_found found handle]
    | move found₀ stage moves => exact absurd (writes?_of_move? found₀ stage moves) writes
    | giveUp found₀ stage =>
      exact absurd (by simp [Moment.writes?, standing?, found₀, stage]) writes
    | _ => exact absurd rfl writes

/-! ## The whole story -/

theorem nextConn_le_of_story (does : Does acts start.handler) (told : Story start story s)
    (member : m ∈ story) : m.server.registry.nextConn ≤ s.registry.nextConn := by
  induction told with
  | nil => cases member
  | snoc told hooks step ih =>
    rw [registry_of_story does told step]
    refine Nat.le_trans ?_ (nextConn_le_after _ _)
    rcases List.mem_append.1 member with old | new
    · exact ih old
    · obtain rfl := List.mem_singleton.1 new
      exact Nat.le_refl _

/-- Nothing is accepted for a number that was not given out. -/
theorem pushed_of_unborn (does : Does acts start.handler) (told : Story start story s)
    (unborn : s.registry.nextConn ≤ k) : pushed acts story k = [] := by
  refine List.flatMap_eq_nil_iff.2 fun m member => if_neg (Nat.not_lt_of_le ?_)
  exact Nat.le_trans (nextConn_le_of_story does told member) unborn

/-- What was pushed to a connection is written in turn, whatever else happens. -/
theorem inTurn_of_story (does : Does acts start.handler) (alone : start.connections = [])
    (told : Story start story s) (untouched : Untouched acts story h.conn)
    (known : .identified h ∈ life story c) (found : s.connections[c]? = some conn) :
    InTurn (pushed acts story h.conn) s.registry h.conn conn.sent := by
  induction told generalizing conn with
  | nil => cases known
  | @snoc past t t' e told hooks step ih =>
    have transition := transition_of_step? step
    have registry := registry_of_story does told step
    have lived := (lived_of_story does alone told).withHooks hooks
    rw [pushed_concat]
    rcases List.mem_append.1 (life_concat .. ▸ known) with old | new
    · obtain missing | ⟨conn₀, found₀⟩ := Option.eq_none_or_eq_some t.connections[c]?
      · rw [lived.absent c missing] at old
        cases old
      · have inTurn := ih (fun m member => untouched m (List.mem_append_left _ member)) old found₀
        have own : ∀ h', conn₀.handle? = some h' → h'.conn = h.conn := fun h' handle =>
          congrArg Handle.conn (lived.handle_unique old (lived.identified_of_handle? found₀ handle))
        have flow : Flow acts ⟨{ t with hooks }, e⟩ h.conn conn₀.sent conn.sent :=
          transition.flow found₀ found own (fun c' h' other => lived.number_of_other old other)
            (untouched _ (by simp))
        exact inTurn.flow flow (lived.numbers.taken c h old) registry
    · have turn : Turn acts ⟨{ t with hooks }, e⟩ t' := transition.turn
      obtain ⟨⟨conn₀, found₀, stage⟩, known', fresh, _⟩ := turn.introduces new
      have unknown : conn₀.handle? = none := by simp [Connection.handle?, stage]
      have silent := sent_of_silent does alone told (lived.handshake found₀ stage) found₀
      obtain ⟨conn₁, found₁, hears⟩ := transition.hears found₀
      have stage' := known' conn found
      obtain rfl := Option.some.inj (found.symm.trans found₁)
      have line := (hears.of_identified stage stage').1
      rw [pushed_of_unborn does told (Nat.le_of_eq fresh.symm), Moment.pushedTo,
        if_neg (Nat.not_lt_of_le (Nat.le_of_eq fresh.symm)),
        transition.sent_of_unknown unknown found₀ found, silent]
      refine .whole ?_ ?_
      · rw [Registry.isOpen, line]
      · rw [line, List.append_nil]

end DeviceLink.Server
