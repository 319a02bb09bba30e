-- The lives of connections. Whatever others do to the registry, a connection lives through its
-- stages in one order, under a number that no other connection ever has.
import DeviceLink.Proofs.Server.Turn

namespace DeviceLink.Server

open Registry (Operation)

variable {acts : Request → Registry → List Operation} {start s s' : Server}
  {story : List Moment} {m : Moment} {c : ClientId} {conn conn' : Connection} {h h' : Handle}
  {place : Place}

/-! ## Stories one moment longer -/

theorem life_append (before after : List Moment) (c : ClientId) :
    life (before ++ after) c = life before c ++ life after c := List.flatMap_append

@[simp] theorem life_concat (story : List Moment) (m : Moment) (c : ClientId) :
    life (story ++ [m]) c = life story c ++ m.deedsOf c := by
  simp [life]

@[simp] theorem bytesFrom_concat (story : List Moment) (m : Moment) (c : ClientId) :
    bytesFrom (story ++ [m]) c = bytesFrom story c ++ m.bytesFrom c := by
  simp [bytesFrom]

theorem identified_mem_deeds : .identified h' ∈ place.deeds h ↔ h' = h := by
  cases place <;> simp [Place.deeds]

theorem registered_mem_deeds : .registered h' ∈ place.deeds h ↔ h' = h ∧ place ≠ .named := by
  cases place <;> simp [Place.deeds]

/-! ## Numbers -/

theorem nextConn_le_after (r : Registry) (ops : List Operation) :
    r.nextConn ≤ (r.after ops).nextConn := by
  induction ops generalizing r with
  | nil => exact Nat.le_refl _
  | cons op ops ih =>
    have first := (Registry.performs_perform r op).nextConn
    exact Nat.le_trans (Nat.le.intro first.symm) (ih (r.perform op).2)

/-- A connection says who it is. -/
structure Introduces (acts : Request → Registry → List Operation) (m : Moment) (s' : Server)
    (c : ClientId) (h : Handle) : Prop where
  unknown : ∃ conn, m.server.connections[c]? = some conn ∧ conn.stage = .handshake
  known : ∀ conn', s'.connections[c]? = some conn' → conn'.stage = .identified h .named
  fresh : h.conn = m.server.registry.nextConn
  operations : ∃ device peer, m.operations acts = [.connect device peer]
  idle : ∀ c', c' ≠ c → m.deedsOf c' = []

/-- A connection says who it is under a new number, and no other does anything meanwhile. -/
theorem Turn.introduces (turn : Turn acts m s') (new : .identified h ∈ m.deedsOf c) :
    Introduces acts m s' c h := by
  cases turn with
  | accept _ _ _ _ idle => simp [(idle c).1] at new
  | nothing _ _ idle => simp [(idle c).1] at new
  | @act c₀ conn conn' found connections how _ idle =>
    by_cases same : c = c₀
    · subst same
      cases how with
      | identify stage stage' _ fresh operations deeds =>
        simp only [deeds, List.mem_singleton, Deed.identified.injEq] at new
        subst new
        refine ⟨⟨conn, found, stage⟩, fun conn₁ found₁ => ?_, fresh, ⟨_, _, operations⟩,
          fun c' other => (idle c' other).1⟩
        rw [connections, List.getElem?_set_self (List.getElem?_eq_some_iff.1 found).1] at found₁
        cases found₁
        exact stage'
      | still _ _ deeds => simp [deeds] at new
      | giveUp _ _ deeds => simp [deeds] at new
      | enter _ _ _ deeds => simp [deeds] at new
      | leave _ _ _ deeds => simp [deeds] at new
      | move _ _ _ _ _ _ passing => exact absurd new (passing h).1
      | part _ _ deeds => simp [deeds] at new
    · simp [(idle c same).1] at new

/-- The numbers of the connections that said who they are: each was given out, and none twice. -/
structure Numbers (story : List Moment) (r : Registry) : Prop where
  taken : ∀ c h, .identified h ∈ life story c → h.conn < r.nextConn
  distinct : ∀ c c' h h', .identified h ∈ life story c → .identified h' ∈ life story c' →
    h.conn = h'.conn → c = c'

theorem Numbers.snoc (numbers : Numbers story m.server.registry) (turn : Turn acts m s')
    (registry : s'.registry = m.server.registry.after (m.operations acts)) :
    Numbers (story ++ [m]) s'.registry := by
  constructor
  · intro c h known
    rw [registry]
    rcases List.mem_append.1 (life_concat story m c ▸ known) with old | new
    · exact Nat.lt_of_lt_of_le (numbers.taken c h old) (nextConn_le_after _ _)
    · obtain ⟨_, _, fresh, ⟨device, peer, operations⟩, _⟩ := turn.introduces new
      rw [operations, fresh]
      exact Nat.lt_succ_self _
  · intro c c' h h' known known' same
    rcases List.mem_append.1 (life_concat story m c ▸ known) with old | new
    · rcases List.mem_append.1 (life_concat story m c' ▸ known') with old' | new'
      · exact numbers.distinct c c' h h' old old' same
      · have less := numbers.taken c h old
        rw [same, (turn.introduces new').fresh] at less
        exact absurd less (Nat.lt_irrefl _)
    · rcases List.mem_append.1 (life_concat story m c' ▸ known') with old' | new'
      · have less := numbers.taken c' h' old'
        rw [← same, (turn.introduces new).fresh] at less
        exact absurd less (Nat.lt_irrefl _)
      · by_contra other
        simp [(turn.introduces new').idle c other] at new

/-! ## Stages -/

/-- What a connection has done that has come to a stage. -/
inductive Stage.Lived : Stage → List Deed → Prop
  | unknown : Lived .handshake []
  | known (h : Handle) (place : Place) : Lived (.identified h place) (place.deeds h)
  | refused : Lived .ended []
  | closed (h : Handle) : Lived .ended (Place.parted.deeds h)

theorem Stage.Lived.eq_nil {deeds : List Deed} (lived : Stage.Lived .handshake deeds) :
    deeds = [] := by
  cases lived
  rfl

theorem Stage.Lived.eq_deeds {deeds : List Deed}
    (lived : Stage.Lived (.identified h place) deeds) : deeds = place.deeds h := by
  cases lived
  rfl

theorem How.lived {deeds : List Deed} (how : How acts m c conn conn')
    (lived : conn.stage.Lived deeds) : conn'.stage.Lived (deeds ++ m.deedsOf c) := by
  cases how with
  | still stage inbox idle =>
    rw [stage, idle, List.append_nil]
    exact lived
  | identify stage stage' first fresh operations new =>
    rw [stage] at lived
    rw [lived.eq_nil, new, stage']
    exact .known _ .named
  | giveUp stage stage' idle =>
    rw [stage] at lived
    rw [lived.eq_nil, idle, stage']
    exact .refused
  | enter stage stage' operations new =>
    rw [stage] at lived
    rw [lived.eq_deeds, new, stage']
    exact .known _ .entered
  | leave stage stage' operations new =>
    rw [stage] at lived
    rw [lived.eq_deeds, new, stage']
    exact .known _ .removed
  | move stage stage' entered entered' present deeds =>
    rw [stage] at lived
    rw [lived.eq_deeds, ← deeds, stage']
    exact .known _ _
  | part stage stage' idle =>
    rw [stage] at lived
    rw [lived.eq_deeds, idle, List.append_nil, stage']
    exact .closed _

/-- What is true of the lives of the connections of a server after a story. -/
structure Lived (story : List Moment) (s : Server) : Prop where
  numbers : Numbers story s.registry
  stage : ∀ (c : ClientId) conn, s.connections[c]? = some conn → conn.stage.Lived (life story c)
  absent : ∀ (c : ClientId), s.connections[c]? = none → life story c = []

theorem Lived.handshake (lived : Lived story s) (found : s.connections[c]? = some conn)
    (stage : conn.stage = .handshake) : life story c = [] := by
  have deeds := lived.stage c conn found
  rw [stage] at deeds
  exact deeds.eq_nil

theorem Lived.known (lived : Lived story s) (found : s.connections[c]? = some conn)
    (stage : conn.stage = .identified h place) : life story c = place.deeds h := by
  have deeds := lived.stage c conn found
  rw [stage] at deeds
  exact deeds.eq_deeds

theorem Lived.identified (lived : Lived story s) (found : s.connections[c]? = some conn)
    (stage : conn.stage = .identified h place) : .identified h ∈ life story c := by
  rw [lived.known found stage]
  exact identified_mem_deeds.2 rfl

theorem Lived.cases (lived : Lived story s) (c : ClientId) :
    life story c = [] ∨ ∃ h place, life story c = Place.deeds h place := by
  cases found : s.connections[c]? with
  | none => exact .inl (lived.absent c found)
  | some conn =>
    have stage := lived.stage c conn found
    generalize conn.stage = stage' at stage
    generalize life story c = deeds at stage ⊢
    cases stage with
    | unknown => exact .inl rfl
    | known h place => exact .inr ⟨h, place, rfl⟩
    | refused => exact .inl rfl
    | closed h => exact .inr ⟨h, .parted, rfl⟩

/-- A connection has one handle in its life. -/
theorem Lived.handle_unique (lived : Lived story s) (known : .identified h ∈ life story c)
    (known' : .identified h' ∈ life story c) : h' = h := by
  rcases lived.cases c with nothing | ⟨h₀, place, deeds⟩
  · simp [nothing] at known
  · rw [deeds] at known known'
    exact (identified_mem_deeds.1 known').trans (identified_mem_deeds.1 known).symm

theorem Lived.identified_of_registered (lived : Lived story s)
    (registered : .registered h ∈ life story c) : .identified h ∈ life story c := by
  rcases lived.cases c with nothing | ⟨h₀, place, deeds⟩
  · simp [nothing] at registered
  · rw [deeds] at registered ⊢
    exact identified_mem_deeds.2 (registered_mem_deeds.1 registered).1

/-! ## The whole story -/

theorem Lived.snoc (lived : Lived story m.server) (turn : Turn acts m s')
    (registry : s'.registry = m.server.registry.after (m.operations acts)) :
    Lived (story ++ [m]) s' := by
  have still : ∀ (c : ClientId) conn, m.server.connections[c]? = some conn → m.deedsOf c = [] →
      conn.stage.Lived (life (story ++ [m]) c) := by
    intro c conn found idle
    rw [life_concat, idle, List.append_nil]
    exact lived.stage c conn found
  have nobody : ∀ (c : ClientId), m.server.connections[c]? = none → m.deedsOf c = [] →
      life (story ++ [m]) c = [] := by
    intro c missing idle
    rw [life_concat, idle, lived.absent c missing]
    rfl
  refine ⟨lived.numbers.snoc turn registry, ?_, ?_⟩
  · intro c conn found
    cases turn with
    | accept peer _ connections _ idle =>
      rw [connections, List.getElem?_append] at found
      split at found
      · exact still c conn found (idle c).1
      · rename_i late
        rw [List.getElem?_singleton] at found
        split at found
        · cases found
          rw [nobody c (List.getElem?_eq_none (Nat.le_of_not_lt late)) (idle c).1]
          exact .unknown
        · cases found
    | nothing connections _ idle =>
      rw [connections] at found
      exact still c conn found (idle c).1
    | @act c' conn₁ conn₂ found₁ connections how _ idle =>
      rw [connections, List.getElem?_set] at found
      by_cases same : c' = c
      · subst same
        simp only [if_true] at found
        split at found
        · cases found
          rw [life_concat]
          exact how.lived (lived.stage c' conn₁ found₁)
        · cases found
      · rw [if_neg same] at found
        exact still c conn found (idle c (Ne.symm same)).1
  · intro c missing
    cases turn with
    | accept peer _ connections _ idle =>
      rw [connections, List.getElem?_eq_none_iff, List.length_append] at missing
      exact nobody c (List.getElem?_eq_none (Nat.le_of_add_right_le missing)) (idle c).1
    | nothing connections _ idle =>
      rw [connections] at missing
      exact nobody c missing (idle c).1
    | @act c' conn₁ conn₂ found₁ connections how _ idle =>
      rw [connections, List.getElem?_eq_none_iff, List.length_set] at missing
      have missing := List.getElem?_eq_none missing
      have other : c ≠ c' := by
        rintro rfl
        rw [missing] at found₁
        cases found₁
      exact nobody c missing (idle c other).1

theorem lived_nil (alone : s.connections = []) : Lived [] s where
  numbers := ⟨fun _ _ => nofun, fun _ _ _ _ => nofun⟩
  stage c conn found := by simp [alone] at found
  absent _ _ := rfl

theorem setup_of_story (told : Story start story s) :
    s.cap = start.cap ∧ s.handler = start.handler := by
  induction told with
  | nil => exact ⟨rfl, rfl⟩
  | snoc told hooks step ih =>
    have setup := (transition_of_step? step).sameSetup
    exact ⟨setup.cap.trans ih.1, setup.handler.trans ih.2⟩

/-- Other hooks in force change no life. -/
theorem Lived.withHooks (lived : Lived story s) (hooks : Hooks) : Lived story { s with hooks } :=
  ⟨lived.numbers, lived.stage, lived.absent⟩

/-- What a moment of a story makes of the registry. -/
theorem registry_of_story (does : Does acts start.handler) (told : Story start story s)
    {hooks : Hooks} {e : Event} (step : { s with hooks }.step? e = some s') :
    s'.registry = s.registry.after (Moment.operations acts ⟨{ s with hooks }, e⟩) := by
  have same : Does acts s.handler := (setup_of_story told).2 ▸ does
  exact (transition_of_step? step).registry_eq same

/-- What is true of the lives of the connections after every story. -/
theorem lived_of_story (does : Does acts start.handler) (alone : start.connections = [])
    (told : Story start story s) : Lived story s := by
  induction told with
  | nil => exact lived_nil alone
  | @snoc past t t' e told hooks step ih =>
    have transition := transition_of_step? step
    have registry := registry_of_story does told step
    exact Lived.snoc (m := ⟨{ t with hooks }, e⟩) (ih.withHooks hooks) transition.turn registry

end DeviceLink.Server
