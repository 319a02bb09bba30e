-- Records whose fields are texts that may be left out: which texts spell them, by a grammar, and
-- that just these are read.
import DeviceLink.Proofs.Json.Record
import DeviceLink.Proofs.Json.Sequence
import DeviceLink.Proofs.Json.Skipping

namespace DeviceLink.Json

variable {bs rest front after : Bytes} {names : List String} {given : List (String × String)}
  {name s : String}

/-! ## The grammar -/

/-- The name of a member and a colon. -/
def Named (bs : Bytes) (name : String) (rest : Bytes) : Prop :=
  ∃ after, Quoted bs name after ∧ Blanks after (0x3A :: rest)

/-- A member of an object, and what it gives: a text if one of the names is its own, and nothing
otherwise. -/
inductive Member (names : List String) : Bytes → List (String × String) → Bytes → Prop
  | field {bs value rest : Bytes} {name s : String} : name ∈ names → Named bs name value →
      Quoted value s rest → Member names bs [(name, s)] rest
  | other {bs front value rest : Bytes} {name : String} : name ∉ names → Named bs name front →
      Blanks front value → Skipped none value rest → Member names bs [] rest

/-- The members of an object, with the bracket that ends it. Nothing has come before the `first`
one. -/
inductive Members (names : List String) : Bool → Bytes → List (String × String) → Bytes → Prop
  | ended (first : Bool) {bs rest : Bytes} : Blanks bs (0x7D :: rest) →
      Members names first bs [] rest
  | member {first : Bool} {bs front after rest : Bytes} {given more : List (String × String)} :
      Comma first bs front → Member names front given after → Members names false after more rest →
        Members names first bs (given ++ more) rest

/-- The elements of an array of strings, with the bracket that ends it. -/
inductive Elements : Bool → Bytes → List String → Bytes → Prop
  | ended (first : Bool) {bs rest : Bytes} : Blanks bs (0x5D :: rest) → Elements first bs [] rest
  | element {first : Bool} {bs front after rest : Bytes} {s : String} {more : List String} :
      Comma first bs front → Quoted front s after → Elements false after more rest →
        Elements first bs (s :: more) rest

/-- A record, and the texts that it gives to fields. In an object each field comes once at most; in
an array the fields come in order, and the last ones may be left out. -/
inductive Gives (names : List String) : Bytes → List (String × String) → Bytes → Prop
  | object {bs inside rest : Bytes} {given : List (String × String)} :
      Blanks bs (0x7B :: inside) → Members names true inside given rest →
        (given.map Prod.fst).Nodup → Gives names bs given rest
  | array {bs inside rest : Bytes} {texts : List String} :
      Blanks bs (0x5B :: inside) → Elements true inside texts rest → texts.length ≤ names.length →
        Gives names bs (names.zip texts) rest

/-! ## Records and drafts -/

/-- Fields that are texts, and empty if they are left out. -/
def textFields (names : List String) : List Field := names.map fun name => optional name text ""

/-- The text that a field is given, if any. -/
def textOf? (given : List (String × String)) (name : String) : Option String := given.lookup name

/-- The text of a field. -/
def textOf (given : List (String × String)) (name : String) : String :=
  (textOf? given name).getD ""

/-- The record whose fields have the texts that are given. -/
def textRecord : (names : List String) → List (String × String) → Record (textFields names)
  | [], _ => ()
  | name :: names, given => (textOf given name, textRecord names given)

/-- The draft that has the texts given so far. -/
def textDraft : (names : List String) → List (String × String) → Draft (textFields names)
  | [], _ => ()
  | name :: names, given => (textOf? given name, textDraft names given)

theorem textRecord_congr {given' : List (String × String)}
    (same : ∀ name ∈ names, textOf? given name = textOf? given' name) :
    textRecord names given = textRecord names given' := by
  induction names with
  | nil => rfl
  | cons name names ih =>
    have first : textOf given name = textOf given' name := by
      unfold textOf
      rw [same name List.mem_cons_self]
    exact Prod.ext first (ih fun n member => same n (List.mem_cons_of_mem _ member))

theorem textDraft_congr {given' : List (String × String)}
    (same : ∀ name ∈ names, textOf? given name = textOf? given' name) :
    textDraft names given = textDraft names given' := by
  induction names with
  | nil => rfl
  | cons name names ih =>
    exact Prod.ext (same name List.mem_cons_self)
      (ih fun n member => same n (List.mem_cons_of_mem _ member))

theorem empty_textFields (names : List String) :
    Draft.empty (textFields names) = textDraft names [] := by
  induction names with
  | nil => rfl
  | cons name names ih => exact congrArg (Prod.mk none) ih

theorem finish_slot (slot : Option String) (rest : Draft (textFields names)) :
    Draft.finish (textFields (name :: names)) (slot, rest) =
      (do return (slot.getD "", ← Draft.finish (textFields names) rest)) := by
  cases slot with
  | _ => rfl

theorem finish_textDraft (names : List String) (given : List (String × String)) :
    Draft.finish (textFields names) (textDraft names given) = .ok (textRecord names given) := by
  induction names with
  | nil => rfl
  | cons name names ih =>
    change Draft.finish (textFields (name :: names))
      (textOf? given name, textDraft names given) = _
    rw [finish_slot, ih]
    rfl

/-- A name that nothing was given to is given a text. -/
theorem textOf?_concat (absent : textOf? given name = none) (n : String) :
    textOf? (given ++ [(name, s)]) n = if n = name then some s else textOf? given n := by
  unfold textOf? at *
  rw [List.lookup_append]
  by_cases same : n = name
  · rw [if_pos same, same, absent]
    simp
  · rw [if_neg same]
    have other : (n == name) = false := beq_false_of_ne same
    simp [List.lookup_cons, other]

/-! ## Members -/

/-- The draft whose first field has a text or none yet. -/
def withSlot (n : String) (slot : Option String) (draft : Draft (textFields names)) :
    Draft (textFields (n :: names)) := (slot, draft)

theorem textDraft_cons (n : String) : textDraft (n :: names) given =
    withSlot n (textOf? given n) (textDraft names given) := rfl

theorem readMember?_withSlot (n : String) (slot : Option String)
    (draft : Draft (textFields names)) :
    (withSlot n slot draft).readMember? (textFields (n :: names)) name =
      if n = name then some (match slot with
        | some _ => throw (.refused (.duplicateField n))
        | none => do
          colon
          let x ← readString
          return withSlot n (some x) draft)
      else ((draft.readMember? (textFields names) name).map fun read => do
        let x ← read
        return withSlot n slot x) := by
  cases slot with
  | _ => rfl

theorem readMember?_of_notMem (absent : name ∉ names) :
    (textDraft names given).readMember? (textFields names) name = none := by
  induction names with
  | nil => rfl
  | cons n names ih =>
    rw [List.mem_cons, not_or] at absent
    rw [textDraft_cons, readMember?_withSlot, if_neg (Ne.symm absent.1), ih absent.2]
    rfl

/-- A text for a field that has none. -/
theorem textDraft_concat_self {n : String} (new : n ∉ names) (unset : textOf? given n = none) :
    textDraft (n :: names) (given ++ [(n, s)]) = withSlot n (some s) (textDraft names given) := by
  have first : textOf? (given ++ [(n, s)]) n = some s := (textOf?_concat unset n).trans (if_pos rfl)
  have others : textDraft names (given ++ [(n, s)]) = textDraft names given := by
    refine textDraft_congr fun m other => ?_
    rw [textOf?_concat unset, if_neg (ne_of_mem_of_not_mem other new)]
  rw [textDraft_cons, first, others]

/-- A text for another field that has none. -/
theorem textDraft_concat_of_ne {n : String} (other : n ≠ name) (unset : textOf? given name = none) :
    textDraft (n :: names) (given ++ [(name, s)]) =
      withSlot n (textOf? given n) (textDraft names (given ++ [(name, s)])) := by
  rw [textDraft_cons, textOf?_concat unset, if_neg other]

/-- What reads a field gives it a text, unless it has one. -/
theorem exists_readMember? (distinct : names.Nodup) (member : name ∈ names)
    (given : List (String × String)) : ∃ read,
      (textDraft names given).readMember? (textFields names) name = some read ∧
      ∀ {bs draft after}, read bs = .ok (draft, after) ↔
        textOf? given name = none ∧ ∃ value s, Blanks bs (0x3A :: value) ∧ Quoted value s after ∧
          textDraft names (given ++ [(name, s)]) = draft := by
  induction names with
  | nil => cases member
  | cons n names ih =>
    obtain ⟨new, distinct⟩ := List.nodup_cons.1 distinct
    by_cases same : n = name
    · subst same
      refine ⟨_, (readMember?_withSlot n _ _).trans (if_pos rfl), fun {bs draft after} => ?_⟩
      cases slot : textOf? given n with
      | some s => exact iff_of_false nofun (fun found => nomatch found.1)
      | none =>
        dsimp only
        rw [Read.bind_eq_ok_iff]
        constructor
        · rintro ⟨_, value, colon, read⟩
          obtain ⟨s, after', quoted, same⟩ := Read.bind_eq_ok_iff.1 read
          obtain ⟨rfl, rfl⟩ := Read.pure_eq_ok_iff.1 same
          exact ⟨rfl, value, s, (expectByte_eq_ok_iff (by decide)).1 colon,
            readString_eq_ok_iff.1 quoted, textDraft_concat_self new slot⟩
        · rintro ⟨-, value, s, colon, quoted, rfl⟩
          refine ⟨(), value, (expectByte_eq_ok_iff (by decide)).2 colon, ?_⟩
          rw [textDraft_concat_self new slot]
          exact Read.bind_eq_ok_iff.2
            ⟨s, after, readString_eq_ok_iff.2 quoted, Read.pure_eq_ok_iff.2 ⟨rfl, rfl⟩⟩
    · have later := (List.mem_cons.1 member).resolve_left (Ne.symm same)
      obtain ⟨read, found, reads⟩ := ih distinct later
      refine ⟨do let x ← read; return withSlot n (textOf? given n) x, ?_,
        fun {bs draft after} => ?_⟩
      · rw [textDraft_cons, readMember?_withSlot, if_neg same, found]
        rfl
      · rw [Read.bind_eq_ok_iff]
        constructor
        · rintro ⟨x, after', ran, same'⟩
          obtain ⟨unset, value, s, colon, quoted, rfl⟩ := reads.1 ran
          obtain ⟨rfl, rfl⟩ := Read.pure_eq_ok_iff.1 same'
          exact ⟨unset, value, s, colon, quoted, textDraft_concat_of_ne same unset⟩
        · rintro ⟨unset, value, s, colon, quoted, rfl⟩
          refine ⟨_, after, reads.2 ⟨unset, value, s, colon, quoted, rfl⟩, ?_⟩
          exact Read.pure_eq_ok_iff.2 ⟨(textDraft_concat_of_ne same unset).symm, rfl⟩

theorem textOf?_eq_none_iff : textOf? given name = none ↔ name ∉ given.map Prod.fst := by
  unfold textOf?
  rw [List.lookup_eq_none_iff]
  simp only [bne_iff_ne, ne_eq, List.mem_map, not_exists, not_and]
  exact forall₂_congr fun p _ => not_congr eq_comm

theorem nodup_concat_iff : ((given ++ [(name, s)]).map Prod.fst).Nodup ↔
    (given.map Prod.fst).Nodup ∧ textOf? given name = none := by
  rw [List.map_append, List.map_singleton, List.nodup_append, textOf?_eq_none_iff]
  constructor
  · rintro ⟨fresh, -, other⟩
    exact ⟨fresh, fun member => other name member name (List.mem_singleton_self name) rfl⟩
  · rintro ⟨fresh, new⟩
    refine ⟨fresh, by simp, fun n member m last => ?_⟩
    rw [List.mem_singleton.1 last]
    exact ne_of_mem_of_not_mem member new

/-! ### What is read is in the grammar -/

theorem exists_members (distinct : names.Nodup) {fuel : Nat} {first : Bool}
    {draft : Draft (textFields names)} (fresh : (given.map Prod.fst).Nodup)
    (read : Record.readMembers (textFields names) fuel first (textDraft names given) bs =
      .ok (draft, after)) :
    ∃ more rest, Members names first bs more rest ∧ after = 0x7D :: rest ∧
      ((given ++ more).map Prod.fst).Nodup ∧ draft = textDraft names (given ++ more) := by
  induction fuel generalizing first given bs with
  | zero => cases read
  | succ fuel ih =>
    rw [Record.readMembers] at read
    obtain ⟨found, past, named, read⟩ := Read.bind_eq_ok_iff.1 read
    cases found with
    | none =>
      obtain ⟨rfl, rfl⟩ := Read.pure_eq_ok_iff.1 read
      obtain ⟨rest, rfl, blanks⟩ := nextName?_none_iff.1 named
      rw [← List.append_nil given] at fresh
      exact ⟨[], rest, .ended first blanks, rfl, fresh, by rw [List.append_nil]⟩
    | some name =>
      obtain ⟨front, comma, quoted⟩ := nextName?_some_iff.1 named
      by_cases member : name ∈ names
      · obtain ⟨readField, known, reads⟩ := exists_readMember? distinct member given
        simp only [known] at read
        obtain ⟨draft', past', taken, read⟩ := Read.bind_eq_ok_iff.1 read
        obtain ⟨unset, value, s, colon, text, rfl⟩ := reads.1 taken
        obtain ⟨more, rest, members, same, nodup, filled⟩ := 
          ih (nodup_concat_iff.2 ⟨fresh, unset⟩) read
        rw [List.append_assoc] at nodup filled
        exact ⟨_, rest, .member comma (.field member ⟨past, quoted, colon⟩ text) members, same,
          nodup, filled⟩
      · simp only [readMember?_of_notMem member] at read
        obtain ⟨_, value, colon, read⟩ := Read.bind_eq_ok_iff.1 read
        obtain ⟨_, past', skips, read⟩ := Read.bind_eq_ok_iff.1 read
        obtain ⟨value', blanks, skipped⟩ := exists_skipped skips
        obtain ⟨more, rest, members, same, nodup, filled⟩ := ih fresh read
        have colon := (expectByte_eq_ok_iff (by decide)).1 colon
        exact ⟨_, rest, .member comma (.other member ⟨past, quoted, colon⟩ blanks skipped) members,
          same, nodup, filled⟩

/-! ### What is in the grammar is read -/

theorem Named.length_lt (named : Named bs name rest) : rest.length < bs.length := by
  obtain ⟨after, quoted, colon⟩ := named
  have shorter := quoted.length_lt
  have := colon.length_le
  rw [List.length_cons] at this
  omega

theorem Member.length_lt (member : Member names bs given rest) : rest.length < bs.length := by
  cases member with
  | field _ named quoted => exact Nat.lt_trans quoted.length_lt named.length_lt
  | other _ named blanks skipped =>
    have shorter := Nat.lt_of_lt_of_le skipped.length_lt blanks.length_le
    exact Nat.lt_trans shorter named.length_lt

theorem Members.endsNumber (members : Members names false bs given rest) : EndsNumber bs := by
  cases members with
  | ended _ bracket => exact bracket.endsNumber (by decide)
  | member comma _ _ =>
    cases comma with
    | present comma => exact comma.endsNumber (by decide)

theorem readMembers_of_members (distinct : names.Nodup) {first : Bool}
    {more : List (String × String)} (members : Members names first bs more rest) {fuel : Nat}
    (enough : bs.length < fuel) (fresh : ((given ++ more).map Prod.fst).Nodup) :
    Record.readMembers (textFields names) fuel first (textDraft names given) bs =
      .ok (textDraft names (given ++ more), 0x7D :: rest) := by
  induction members generalizing given fuel with
  | ended first bracket =>
    obtain ⟨fuel, rfl⟩ := Nat.exists_eq_add_one_of_ne_zero (Nat.ne_zero_of_lt enough)
    rw [Record.readMembers, List.append_nil]
    exact Read.bind_eq_ok_iff.2
      ⟨none, _, nextName?_none_iff.2 ⟨_, rfl, bracket⟩, Read.pure_eq_ok_iff.2 ⟨rfl, rfl⟩⟩
  | member comma member members ih =>
    obtain ⟨fuel, rfl⟩ := Nat.exists_eq_add_one_of_ne_zero (Nat.ne_zero_of_lt enough)
    have shorter := Nat.lt_of_lt_of_le member.length_lt comma.length_le
    rw [Record.readMembers, Read.bind_eq_ok_iff]
    cases member with
    | @field _ _ name s own named text =>
      obtain ⟨past, quoted, colon⟩ := named
      rw [← List.append_assoc] at fresh ⊢
      have unset : textOf? given name = none := by
        rw [List.map_append] at fresh
        exact (nodup_concat_iff.1 (List.nodup_append.1 fresh).1).2
      obtain ⟨readField, known, reads⟩ := exists_readMember? distinct own given
      refine ⟨some name, past, nextName?_some_iff.2 ⟨_, comma, quoted⟩, ?_⟩
      simp only [known]
      exact Read.bind_eq_ok_iff.2
        ⟨_, _, reads.2 ⟨unset, _, s, colon, text, rfl⟩, ih (by omega) fresh⟩
    | @other _ _ _ name foreign named blanks skipped =>
      obtain ⟨past, quoted, colon⟩ := named
      refine ⟨some name, past, nextName?_some_iff.2 ⟨_, comma, quoted⟩, ?_⟩
      simp only [readMember?_of_notMem foreign]
      have skips := skipValue_of_skipped blanks skipped members.endsNumber
      refine Read.bind_eq_ok_iff.2 ⟨(), _, (expectByte_eq_ok_iff (by decide)).2 colon, ?_⟩
      exact Read.bind_eq_ok_iff.2 ⟨(), _, skips, ih (by omega) fresh⟩

/-- The members of an object are read just from what spells them, the first bracket being taken. -/
theorem readMembers_eq_ok_iff (distinct : names.Nodup) {draft : Draft (textFields names)} :
    Record.readMembers (textFields names) (bs.length + 1) true (Draft.empty (textFields names)) bs =
      .ok (draft, after) ↔ ∃ given rest, Members names true bs given rest ∧
        (given.map Prod.fst).Nodup ∧ draft = textDraft names given ∧ after = 0x7D :: rest := by
  rw [empty_textFields]
  constructor
  · intro read
    have fresh : (([] : List (String × String)).map Prod.fst).Nodup := List.nodup_nil
    obtain ⟨given, rest, members, same, fresh, filled⟩ := exists_members distinct fresh read
    exact ⟨given, rest, members, fresh, filled, same⟩
  · rintro ⟨given, rest, members, fresh, rfl, rfl⟩
    rw [← List.nil_append given] at fresh
    exact readMembers_of_members distinct members (Nat.lt_succ_self _) fresh

/-! ## Elements -/

/-- The record whose first field has the text `s`. -/
def withText (n : String) (s : String) (r : Record (textFields names)) :
    Record (textFields (n :: names)) := (s, r)

theorem textRecord_zip_nil (n : String) : textRecord (n :: names) ((n :: names).zip []) =
    withText n "" (textRecord names (names.zip [])) := by
  rw [List.zip_nil_right, List.zip_nil_right]
  rfl

theorem textRecord_zip_cons {n : String} (new : n ∉ names) (s : String) (texts : List String) :
    textRecord (n :: names) ((n :: names).zip (s :: texts)) =
      withText n s (textRecord names (names.zip texts)) := by
  have first : textOf? ((n, s) :: names.zip texts) n = some s := List.lookup_cons_self
  have others : textRecord names ((n, s) :: names.zip texts) =
      textRecord names (names.zip texts) := by
    refine textRecord_congr fun m other => ?_
    have ne : m ≠ n := ne_of_mem_of_not_mem other new
    unfold textOf?
    rw [List.lookup_cons, beq_false_of_ne ne]
  rw [List.zip_cons_cons]
  exact Prod.ext (congrArg (Option.getD · "") first) others

theorem readElements_cons (wanted : String) (index : Nat) (n : String) :
    Record.readElements wanted index (textFields (n :: names)) =
      (do
        let x ← hasElement (index = 0) >>= fun more => if more then readString else pure ""
        let r ← Record.readElements wanted (index + 1) (textFields names)
        return withText n x r) := by
  rw [bind_assoc]
  refine bind_congr fun more => ?_
  cases more with
  | _ => rfl

theorem Elements.eq_nil {texts : List String} (elements : Elements false (0x5D :: bs) texts rest) :
    texts = [] ∧ rest = bs := by
  cases elements with
  | ended _ bracket =>
    cases bracket.eq_of_visible (by decide)
    exact ⟨rfl, rfl⟩
  | element comma _ _ =>
    cases comma with
    | present comma => cases comma.eq_of_visible (by decide)

theorem readElement_eq_ok_iff {first : Bool} :
    (hasElement first >>= fun more => if more then readString else pure "") bs = .ok (s, after) ↔
      (∃ front, Comma first bs front ∧ Quoted front s after) ∨
        s = "" ∧ ∃ rest, after = 0x5D :: rest ∧ Blanks bs (0x5D :: rest) := by
  rw [Read.bind_eq_ok_iff]
  constructor
  · rintro ⟨more, past, found, read⟩
    cases more with
    | true =>
      obtain ⟨c, inside, front, rfl, -, visible, comma, blanks⟩ := hasElement_true_iff.1 found
      obtain ⟨inside', quote, literal⟩ := readString_eq_ok_iff.1 read
      cases quote.eq_of_visible visible
      exact .inl ⟨front, comma, inside, blanks, literal⟩
    | false =>
      obtain ⟨rfl, rfl⟩ := Read.pure_eq_ok_iff.1 read
      exact .inr ⟨rfl, hasElement_false_iff.1 found⟩
  · rintro (⟨front, comma, inside, blanks, literal⟩ | ⟨rfl, ends⟩)
    · refine ⟨true, 0x22 :: inside, ?_, readString_eq_ok_iff.2 ⟨inside, .nil _, literal⟩⟩
      exact hasElement_true_iff.2 ⟨0x22, inside, front, rfl, by decide, by decide, comma, blanks⟩
    · exact ⟨false, after, hasElement_false_iff.2 ends, Read.pure_eq_ok_iff.2 ⟨rfl, rfl⟩⟩

theorem readElements_eq_ok_iff (distinct : names.Nodup) {wanted : String} {index : Nat}
    {r : Record (textFields names)} :
    (∃ after, Record.readElements wanted index (textFields names) bs = .ok (r, after) ∧
      Blanks after (0x5D :: rest)) ↔
        ∃ texts, Elements (index = 0) bs texts rest ∧ texts.length ≤ names.length ∧
          r = textRecord names (names.zip texts) := by
  induction names generalizing index bs with
  | nil =>
    constructor
    · rintro ⟨after, read, ends⟩
      cases read
      exact ⟨[], .ended _ ends, Nat.le_refl _, rfl⟩
    · rintro ⟨texts, elements, short, rfl⟩
      obtain rfl := List.length_eq_zero_iff.1 (Nat.le_zero.1 short)
      cases elements with
      | ended _ ends => exact ⟨bs, rfl, ends⟩
  | cons n names ih =>
    obtain ⟨new, distinct⟩ := List.nodup_cons.1 distinct
    have next : decide (index + 1 = 0) = false := decide_eq_false (Nat.succ_ne_zero index)
    rw [readElements_cons]
    constructor
    · rintro ⟨after, read, ends⟩
      obtain ⟨s, past, first, read⟩ := Read.bind_eq_ok_iff.1 read
      obtain ⟨r', after', others, same⟩ := Read.bind_eq_ok_iff.1 read
      obtain ⟨rfl, rfl⟩ := Read.pure_eq_ok_iff.1 same
      obtain ⟨texts, elements, short, rfl⟩ := (ih distinct).1 ⟨after', others, ends⟩
      rw [next] at elements
      rcases readElement_eq_ok_iff.1 first with ⟨front, comma, quoted⟩ | ⟨rfl, rest', rfl, blanks⟩
      · exact ⟨s :: texts, .element comma quoted elements, Nat.succ_le_succ short,
          (textRecord_zip_cons new s texts).symm⟩
      · obtain ⟨rfl, rfl⟩ := elements.eq_nil
        exact ⟨[], .ended _ blanks, Nat.zero_le _, (textRecord_zip_nil n).symm⟩
    · rintro ⟨texts, elements, short, rfl⟩
      cases elements with
      | ended _ ends =>
        have none : Elements (index + 1 = 0) (0x5D :: rest) [] rest := .ended _ (.nil _)
        obtain ⟨after, others, ends'⟩ := (ih distinct).2 ⟨[], none, Nat.zero_le _, rfl⟩
        refine ⟨after, Read.bind_eq_ok_iff.2 ⟨"", 0x5D :: rest, ?_, ?_⟩, ends'⟩
        · exact readElement_eq_ok_iff.2 (.inr ⟨rfl, rest, rfl, ends⟩)
        · rw [textRecord_zip_nil]
          exact Read.bind_eq_ok_iff.2 ⟨_, _, others, Read.pure_eq_ok_iff.2 ⟨rfl, rfl⟩⟩
      | @element _ _ _ _ _ s texts comma quoted elements =>
        rw [← next] at elements
        obtain ⟨after, others, ends⟩ :=
          (ih distinct).2 ⟨texts, elements, Nat.le_of_succ_le_succ short, rfl⟩
        have first := readElement_eq_ok_iff.2 (.inl ⟨_, comma, quoted⟩)
        refine ⟨after, Read.bind_eq_ok_iff.2 ⟨_, _, first, ?_⟩, ends⟩
        rw [textRecord_zip_cons new]
        exact Read.bind_eq_ok_iff.2 ⟨_, _, others, Read.pure_eq_ok_iff.2 ⟨rfl, rfl⟩⟩

/-! ## Records -/

/-- A record is read just from what spells it. -/
theorem read_textFields_eq_ok_iff (distinct : names.Nodup) {title : String}
    {r : Record (textFields names)} : Record.read title (textFields names) bs = .ok (r, rest) ↔
      ∃ given, Gives names bs given rest ∧ r = textRecord names given := by
  unfold Record.read
  rw [bind_eq_ok_iff]
  constructor
  · rintro ⟨⟨b, inside⟩, next, read⟩
    dsimp only at read
    obtain ⟨-, blanks⟩ := nextByte_eq_ok_iff.1 next
    split at read
    · next bracket =>
      subst bracket
      obtain ⟨⟨r', after⟩, found, read⟩ := bind_eq_ok_iff.1 read
      obtain ⟨⟨_, rest'⟩, ends, same⟩ := bind_eq_ok_iff.1 read
      cases same
      obtain ⟨texts, elements, short, rfl⟩ := (readElements_eq_ok_iff distinct).1
        ⟨after, found, (expectByte_eq_ok_iff (by decide)).1 ends⟩
      exact ⟨_, .array blanks elements short, rfl⟩
    · split at read
      · next bracket =>
        subst bracket
        obtain ⟨⟨draft, after⟩, found, read⟩ := bind_eq_ok_iff.1 read
        obtain ⟨r', finished, read⟩ := bind_eq_ok_iff.1 read
        obtain ⟨⟨_, rest'⟩, ends, same⟩ := bind_eq_ok_iff.1 read
        cases same
        obtain ⟨given, rest'', members, fresh, rfl, rfl⟩ := (readMembers_eq_ok_iff distinct).1 found
        rw [finish_textDraft] at finished
        cases finished
        cases ((expectByte_eq_ok_iff (by decide)).1 ends).eq_of_visible (by decide)
        exact ⟨given, .object blanks members fresh, rfl⟩
      · exact absurd read wrongType_ne_ok
  · rintro ⟨given, gives, rfl⟩
    cases gives with
    | object bracket members fresh =>
      refine ⟨_, nextByte_eq_ok_iff.2 ⟨by decide, bracket⟩, ?_⟩
      have read := (readMembers_eq_ok_iff distinct).2 ⟨given, rest, members, fresh, rfl, rfl⟩
      have ends : endObject (0x7D :: rest) = .ok ((), rest) :=
        (expectByte_eq_ok_iff (by decide)).2 (.nil _)
      dsimp only
      rw [if_neg (by decide), if_pos rfl, read, ok_bind]
      dsimp only
      rw [finish_textDraft, ok_bind, ends]
      rfl
    | array bracket elements short =>
      refine ⟨_, nextByte_eq_ok_iff.2 ⟨by decide, bracket⟩, ?_⟩
      have elements : Elements (decide (0 = 0)) _ _ rest := elements
      obtain ⟨after, read, ends⟩ := (readElements_eq_ok_iff distinct).2 ⟨_, elements, short, rfl⟩
      have ends : endArray after = .ok ((), rest) := (expectByte_eq_ok_iff (by decide)).2 ends
      dsimp only
      rw [if_pos rfl, read, ok_bind]
      dsimp only
      rw [ends]
      rfl

/-! ## Printed objects -/

theorem quoted_printString (s : String) (rest : Bytes) : Quoted (printString s ++ rest) s rest := by
  obtain ⟨inside, printed, read⟩ := literal_printString s rest
  rw [printed]
  exact ⟨inside, .nil _, literal_eq_ok_iff.1 read⟩

theorem named_printString (name : String) (rest : Bytes) :
    Named (printString name ++ 0x3A :: rest) name rest :=
  ⟨_, quoted_printString name _, .nil _⟩

/-- The texts of an object that has more members than these names. -/
def ofNames (names : List String) (texts : List (String × String)) : List (String × String) :=
  texts.filter fun t => t.1 ∈ names

theorem member_printString (names : List String) (t : String × String) (rest : Bytes) :
    Member names (printString t.1 ++ 0x3A :: (printString t.2 ++ rest)) (ofNames names [t])
      rest := by
  have named := named_printString t.1 (printString t.2 ++ rest)
  by_cases own : t.1 ∈ names
  · have kept : ofNames names [t] = [t] := List.filter_cons_of_pos (decide_eq_true own)
    rw [kept]
    exact .field own named (quoted_printString t.2 rest)
  · have none : ofNames names [t] = [] := List.filter_cons_of_neg (by simpa using own)
    obtain ⟨inside, blanks, literal⟩ := quoted_printString t.2 rest
    rw [none]
    exact .other own named blanks (.scalar (.text literal.loose))

/-- The members of an object of strings. -/
def stringMembers (texts : List (String × String)) : List (String × Json) :=
  texts.map fun t => (t.1, .string t.2)

theorem ofNames_cons (names : List String) (t : String × String) (texts : List (String × String)) :
    ofNames names (t :: texts) = ofNames names [t] ++ ofNames names texts :=
  List.filter_append [t] texts

theorem printMembers_cons (t : String × String) (texts : List (String × String)) :
    printMembers (stringMembers (t :: texts)) =
      (printString t.1 ++ 0x3A :: printString t.2) :: printMembers (stringMembers texts) := by
  change printMembers ((t.1, .string t.2) :: stringMembers texts) = _
  rw [printMembers, print]

theorem members_following (names : List String) (texts : List (String × String)) (rest : Bytes) :
    Members names false (following 0x7D (printMembers (stringMembers texts)) rest)
      (ofNames names texts) rest := by
  induction texts with
  | nil => exact .ended false (.nil _)
  | cons t texts ih =>
    have member := member_printString names t
      (following 0x7D (printMembers (stringMembers texts)) rest)
    have text : following 0x7D (printMembers (stringMembers (t :: texts))) rest =
        0x2C :: (printString t.1 ++ 0x3A :: (printString t.2 ++
          following 0x7D (printMembers (stringMembers texts)) rest)) := by
      rw [printMembers_cons]
      simp [following]
    rw [text, ofNames_cons]
    exact .member (.present (.nil _)) member ih

/-- An object of strings gives the fields their texts, and its other members count for nothing. -/
theorem gives_printObject {texts : List (String × String)}
    (distinct : ((ofNames names texts).map Prod.fst).Nodup) (rest : Bytes) :
    Gives names (printObject (stringMembers texts) ++ rest) (ofNames names texts) rest := by
  cases texts with
  | nil => exact .object (.nil _) (.ended true (.nil _)) distinct
  | cons t texts =>
    have member := member_printString names t
      (following 0x7D (printMembers (stringMembers texts)) rest)
    have text : printObject (stringMembers (t :: texts)) ++ rest =
        0x7B :: (printString t.1 ++ 0x3A :: (printString t.2 ++
          following 0x7D (printMembers (stringMembers texts)) rest)) := by
      have whole := commaSeparated_cons 0x7D (printString t.1 ++ 0x3A :: printString t.2)
        (printMembers (stringMembers texts)) rest
      unfold printObject
      rw [printMembers_cons, List.append_assoc, List.cons_append, List.singleton_append, whole,
        List.append_assoc, List.cons_append]
    rw [text]
    rw [ofNames_cons] at distinct ⊢
    have members := members_following names texts rest
    exact .object (.nil _) (.member (.absent _) member members) distinct

end DeviceLink.Json
