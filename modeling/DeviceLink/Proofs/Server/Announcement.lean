-- What the admin consoles are told of who comes and goes. A connection comes in two steps and
-- leaves in three; here are runs in which each of these counts as one, and what such a one does.
import DeviceLink.Proofs.Server.Transition

namespace DeviceLink.Server

/-! ## Announcements -/

/-- The word that a device is online, or offline. -/
structure Announcement where
  device : DeviceId
  online : Bool
deriving Repr, DecidableEq

/-- What the admin consoles are told. -/
def Announcement.message (a : Announcement) : Bytes :=
  if a.online then onlineMessage a.device else offlineMessage a.device

/-- How the admin consoles are told. -/
def Announcement.operation (a : Announcement) : Registry.Operation :=
  .broadcast a.device.text a.message

/-- The handle of a connection that said who it is, and how far it has come. -/
def standing? (s : Server) (c : ClientId) : Option (Handle × Place) :=
  s.connections[c]? >>= fun conn =>
    match conn.stage with
    | .identified h place => some (h, place)
    | _ => none

/-- The announcement that a connection makes as it moves on from a place, if it makes one. -/
def Place.announcement? (h : Handle) : Place → Option Announcement
  | .entered => some ⟨h.device, true⟩
  | .judged false => some ⟨h.device, false⟩
  | _ => none

/-- The announcement that an event makes, if it makes one. -/
def announcement? (s : Server) : Event → Option Announcement
  | .proceed c => s.standing? c >>= fun (h, place) => place.announcement? h
  | _ => none

/-- The announcements that a sequence of events makes, and the server after it. -/
def narrate? (s : Server) : List Event → Option (List Announcement × Server)
  | [] => some ([], s)
  | e :: es =>
    (s.step? e).bind fun s' =>
      (s'.narrate? es).map fun later => ((s.announcement? e).toList ++ later.1, later.2)

variable {s s' : Server} {c : ClientId} {conn : Connection} {h : Handle} {place place' : Place}

theorem standing?_of_found (found : s.connections[c]? = some conn)
    (stage : conn.stage = .identified h place) : s.standing? c = some (h, place) := by
  unfold standing?
  rw [found]
  simp only [Option.bind_eq_bind, Option.bind_some, stage]

theorem standing?_eq_some_iff : s.standing? c = some (h, place) ↔
    ∃ conn, s.connections[c]? = some conn ∧ conn.stage = .identified h place := by
  constructor
  · intro stands
    obtain ⟨conn, found, same⟩ := Option.bind_eq_some_iff.1 stands
    refine ⟨conn, found, ?_⟩
    split at same
    · rename_i stage
      cases same
      exact stage
    · cases same
  · rintro ⟨conn, found, stage⟩
    exact standing?_of_found found stage

/-- A narrated run is a run. -/
theorem narrate?_map_snd (s : Server) (es : List Event) :
    (s.narrate? es).map (·.2) = s.run? es := by
  induction es generalizing s with
  | nil => rfl
  | cons e es ih =>
    unfold narrate? run?
    cases s.step? e with
    | none => rfl
    | some s' =>
      simp only [Option.bind_some, Option.map_map, Function.comp_def, Option.bind_eq_bind]
      exact ih s'

theorem narrate?_append (s : Server) (es es' : List Event) :
    s.narrate? (es ++ es') = (s.narrate? es).bind fun first =>
      (first.2.narrate? es').map fun later => (first.1 ++ later.1, later.2) := by
  induction es generalizing s with
  | nil => simp [narrate?]
  | cons e es ih =>
    rw [List.cons_append, narrate?, narrate?]
    cases s.step? e with
    | none => rfl
    | some s' =>
      simp only [Option.bind_some, ih, Option.map_bind, Option.bind_map, Function.comp_def,
        Option.map_map, List.append_assoc]

/-! ## Moves of a connection -/

/-- The connection at another place. -/
def Connection.moveTo (conn : Connection) (h : Handle) (place : Place) : Connection :=
  { conn with stage := .identified h place }

theorem announcement?_of_found (found : s.connections[c]? = some conn)
    (stage : conn.stage = .identified h place) :
    s.announcement? (.proceed c) = place.announcement? h := by
  simp only [announcement?, standing?_of_found found stage, Option.bind_eq_bind, Option.bind_some]

theorem step?_proceed (found : s.connections[c]? = some conn)
    (stage : conn.stage = .identified h place) (moves : s.move? h place = some (place', s')) :
    s.step? (.proceed c) = some (s'.setConnection c (conn.moveTo h place')) := by
  refine at?_eq_some_iff.2 ⟨conn, found, ?_⟩
  unfold proceed?
  rw [stage]
  split
  · rename_i same
    cases same
    cases moves
  · rename_i same
    cases same
    rw [moves]
    rfl
  · rename_i other
    exact absurd rfl (other h place)

/-- Every announcement is broadcast in the step that makes it. -/
theorem registry_of_announcement? {e : Event} {a : Announcement}
    (announces : s.announcement? e = some a) (step : s.step? e = some s') :
    s'.registry = (s.registry.perform a.operation).2 := by
  cases e with
  | proceed c =>
    obtain ⟨⟨h, place⟩, stands, same⟩ := Option.bind_eq_some_iff.1 announces
    obtain ⟨conn, found, stage⟩ := standing?_eq_some_iff.1 stands
    have announced : place.announcement? h = some a := same
    unfold Place.announcement? at announced
    split at announced
    · cases announced
      rw [step?_proceed found stage rfl] at step
      cases step
      rfl
    · cases announced
      rw [step?_proceed found stage rfl] at step
      cases step
      rfl
    · cases announced
  | _ => cases announces

theorem narrate?_proceed (found : s.connections[c]? = some conn)
    (stage : conn.stage = .identified h place) (moves : s.move? h place = some (place', s'))
    (es : List Event) :
    s.narrate? (.proceed c :: es) =
      ((s'.setConnection c (conn.moveTo h place')).narrate? es).map
        fun later => ((place.announcement? h).toList ++ later.1, later.2) := by
  rw [narrate?, step?_proceed found stage moves, announcement?_of_found found stage,
    Option.bind_some]

/-- A move does not look at the connections. -/
theorem move?_setConnection (moves : s.move? h place = some (place', s')) (conn : Connection) :
    (s.setConnection c conn).move? h place = some (place', s'.setConnection c conn) := by
  cases place with
  | waiting => cases moves
  | parted => cases moves
  | judged replaced => cases replaced <;> cases moves <;> rfl
  | _ =>
    cases moves
    rfl

/-- The next move of a connection that has just moved. -/
theorem narrate?_moveTo (found : s.connections[c]? = some conn)
    (moves : s.move? h place = some (place', s')) (es : List Event) :
    (s.setConnection c (conn.moveTo h place)).narrate? (.proceed c :: es) =
      ((s'.setConnection c (conn.moveTo h place')).narrate? es).map
        fun later => ((place.announcement? h).toList ++ later.1, later.2) := by
  have moved : (s.setConnection c (conn.moveTo h place)).connections[c]? =
      some (conn.moveTo h place) :=
    List.getElem?_set_self (List.getElem?_eq_some_iff.1 found).1
  rw [narrate?_proceed moved rfl (move?_setConnection moves _)]
  unfold setConnection
  simp only [List.set_set]
  rfl

/-! ## Coming and leaving -/

/-- How many steps count as one with an event. A connection comes in one with the word of it, and
leaves in one with the look for another and the word of it. -/
def stride (s : Server) : Event → Nat
  | .proceed c =>
    match s.standing? c with
    | some (_, .named) => 2
    | some (_, .leaving) => 3
    | _ => 1
  | _ => 1

/-- An event is the first step of coming, the first step of leaving, or a step of its own. -/
theorem stride_cases (s : Server) (e : Event) :
    (∃ c h, e = .proceed c ∧ s.standing? c = some (h, .named)) ∨
      (∃ c h, e = .proceed c ∧ s.standing? c = some (h, .leaving)) ∨ s.stride e = 1 := by
  cases e with
  | proceed c =>
    simp only [stride]
    split
    · rename_i h stands
      exact .inl ⟨c, h, rfl, stands⟩
    · rename_i h stands
      exact .inr (.inl ⟨c, h, rfl, stands⟩)
    · exact .inr (.inr rfl)
  | _ => exact .inr (.inr rfl)

/-- The announcements of an event and of what counts as one with it, and the server after it. -/
def stride? (s : Server) (e : Event) : Option (List Announcement × Server) :=
  s.narrate? (List.replicate (s.stride e) e)

/-- The announcements that a sequence of events makes if no connection is interrupted in coming or
leaving, and the server after it. -/
def strides? (s : Server) : List Event → Option (List Announcement × Server)
  | [] => some ([], s)
  | e :: es =>
    (s.stride? e).bind fun first =>
      (first.2.strides? es).map fun later => (first.1 ++ later.1, later.2)

/-- A run of strides is a run. -/
theorem narrate?_of_strides? {es : List Event} {log : List Announcement}
    (run : s.strides? es = some (log, s')) : ∃ steps, s.narrate? steps = some (log, s') := by
  induction es generalizing s log with
  | nil => exact ⟨[], run⟩
  | cons e es ih =>
    obtain ⟨⟨news, s₁⟩, first, rest⟩ := Option.bind_eq_some_iff.1 run
    obtain ⟨⟨later, s₂⟩, others, same⟩ := Option.map_eq_some_iff.1 rest
    cases same
    obtain ⟨steps, narrated⟩ := ih others
    refine ⟨List.replicate (s.stride e) e ++ steps, ?_⟩
    rw [narrate?_append, show s.narrate? _ = _ from first, Option.bind_some, narrated]
    rfl

/-- The server once a device has an entry and the word of that was given. -/
def withDevice (s : Server) (h : Handle) : Server :=
  (s.operate (.register h)).operate (.broadcast h.device.text (onlineMessage h.device))

/-- The server once the entry of a connection is gone. -/
def withoutEntry (s : Server) (h : Handle) : Server :=
  s.operate (.unregisterConnection h.conn)

/-- The server once the entry of a connection is gone and the word of that was given, unless the
device has another entry. -/
def withoutDevice (s : Server) (h : Handle) : Server :=
  if (s.withoutEntry h).isReplaced h.device then s.withoutEntry h
  else (s.withoutEntry h).operate (.broadcast h.device.text (offlineMessage h.device))

theorem withoutDevice_eq (s : Server) (h : Handle) :
    s.withoutDevice h = s.withoutEntry h ∨ s.withoutDevice h =
      (s.withoutEntry h).operate (.broadcast h.device.text (offlineMessage h.device)) := by
  unfold withoutDevice
  by_cases replaced : (s.withoutEntry h).isReplaced h.device = true
  · exact .inl (if_pos replaced)
  · exact .inr (if_neg replaced)

theorem connections_withoutDevice (s : Server) (h : Handle) :
    (s.withoutDevice h).connections = s.connections := by
  rcases withoutDevice_eq s h with same | same
  · rw [same]
    rfl
  · rw [same]
    rfl

theorem sameSetup_withoutDevice (s : Server) (h : Handle) : SameSetup s (s.withoutDevice h) := by
  rcases withoutDevice_eq s h with same | same
  · rw [same]
    exact ⟨rfl, rfl, rfl, rfl⟩
  · rw [same]
    exact ⟨rfl, rfl, rfl, rfl⟩

theorem stride?_coming (found : s.connections[c]? = some conn)
    (stage : conn.stage = .identified h .named) :
    s.stride? (.proceed c) = some ([⟨h.device, true⟩],
      (s.withDevice h).setConnection c (conn.moveTo h .announced)) := by
  have registers : s.move? h .named = some (.entered, s.operate (.register h)) := rfl
  unfold stride? stride
  simp only [standing?_of_found found stage, List.replicate]
  rw [narrate?_proceed found stage registers,
    narrate?_moveTo ((connections_of_move? registers).symm ▸ found) rfl]
  rfl

theorem stride?_leaving (found : s.connections[c]? = some conn)
    (stage : conn.stage = .identified h .leaving) :
    s.stride? (.proceed c) =
      some (if (s.withoutEntry h).isReplaced h.device then [] else [⟨h.device, false⟩],
        (s.withoutDevice h).setConnection c (conn.moveTo h .departed)) := by
  have removes : s.move? h .leaving = some (.removed, s.withoutEntry h) := rfl
  have found' : (s.withoutEntry h).connections[c]? = some conn :=
    (connections_of_move? removes).symm ▸ found
  unfold stride? stride withoutDevice
  simp only [standing?_of_found found stage, List.replicate]
  rw [narrate?_proceed found stage removes, narrate?_moveTo found' rfl,
    narrate?_moveTo found' rfl]
  cases (s.withoutEntry h).isReplaced h.device <;> rfl

end DeviceLink.Server
