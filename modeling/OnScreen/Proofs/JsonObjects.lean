import OnScreen.Proofs.JsonSyntax

/-!
# Arrays, and objects with their members in any order

An array is read if its items are. A record is read from an object whose members come in any order.
A field that is left out keeps its default, and members that the record does not have are stepped
over, whatever their values are. The first part that is not read ends the reading.

Results:
* `Json.reads_listOf`, `gives_listOf`: arrays, with any spacing.
* `Json.members_sequence`: what the members of an object come to, one after the other.
* `Json.reads_record_none`: no record is read if one of its fields is not.
* `Json.FieldText`, `IsObject`: the objects that tell the values of some fields.
* `Json.IsObject.gives`: a record is read from each of them.
* `Json.isObject_spacedChars`: objects as they are written.
-/

namespace OnScreen.Json

variable {α β : Type}

/-- The parts of an array or object were read, and what is left is its end and some rest; if nothing
is said of them, they were not read. -/
def Closes {γ : Type} (close : List Char → Except Fault (List Char)) (rest : List Char)
    (x : Except Fault (γ × List Char)) : Option γ → Prop
  | none => ∃ e, x = .error e
  | some a => ∃ s, x = .ok (a, s) ∧ close s = .ok rest

/-! ## Arrays -/

theorem nextItem_closing {blanks : List Char} (hblanks : Blank blanks) (first : Bool)
    (rest : List Char) :
    nextItem first (blanks ++ ']' :: rest) = .ok none ∧
      arrayEnd (blanks ++ ']' :: rest) = .ok rest := by
  unfold nextItem arrayEnd
  rw [skipBlanks_append hblanks, skipBlanks_cons _ rfl]
  exact ⟨rfl, rfl⟩

theorem nextItem_first {blanks part : List Char} (hblanks : Blank blanks) (hpart : Opens part)
    (s : List Char) : nextItem true (blanks ++ (part ++ s)) = .ok (some (part ++ s)) := by
  obtain ⟨c, cs, rfl, hblank, hclose, -⟩ := hpart
  unfold nextItem
  rw [skipBlanks_append hblanks, List.cons_append, skipBlanks_cons _ hblank]
  simp only [if_neg hclose, if_true]

theorem nextItem_next {blanks blanks' part : List Char} (hblanks : Blank blanks)
    (hblanks' : Blank blanks') (hpart : Opens part) (s : List Char) :
    nextItem false (blanks ++ ',' :: (blanks' ++ (part ++ s))) = .ok (some (part ++ s)) := by
  obtain ⟨c, cs, rfl, hblank, hclose, -⟩ := hpart
  unfold nextItem
  rw [skipBlanks_append hblanks, skipBlanks_cons _ rfl]
  simp only [skipBlanks_append hblanks', List.cons_append, skipBlanks_cons _ hblank, if_neg hclose]
  rfl

/-- Items are read one after the other, as long as they are. -/
theorem items_sequence {item : Reader α} {first : Bool} {parts : List (List Char)}
    {text : List Char} (h : Sequence ']' first parts text) {f : β → Option α} {bs : List β}
    (hparts : List.Forall₂ (fun b part => Opens part ∧ Reads item part (f b)) bs parts)
    (rest : List Char) {fuel : Nat} (hfuel : parts.length < fuel) :
    Closes arrayEnd rest (items item fuel first (text ++ rest)) (bs.mapM f) := by
  -- what the parts come to, once the next one was found
  have hnext {first : Bool} {s : List Char} {b : β} {bs : List β} {part text : List Char}
      {parts : List (List Char)} {fuel : Nat} (hpart : Reads item part (f b))
      (h : Sequence ']' false parts text)
      (hfound : nextItem first s = .ok (some (part ++ (text ++ rest))))
      (hmore : Closes arrayEnd rest (items item fuel false (text ++ rest)) (bs.mapM f)) :
      Closes arrayEnd rest (items item (fuel + 1) first s) ((b :: bs).mapM f) := by
    have hdelimited : Delimited (text ++ rest) := h.delimited (Or.inl rfl) rest
    rw [items, hfound, List.mapM_cons]
    cases hb : f b with
    | none =>
      rw [hb] at hpart
      obtain ⟨e, he⟩ := hpart.eq_error blank_nil hdelimited
      rw [List.nil_append] at he
      simp only [he]
      exact ⟨e, rfl⟩
    | some a =>
      rw [hb, reads_some_iff] at hpart
      have hread := hpart [] (text ++ rest) blank_nil hdelimited
      rw [List.nil_append] at hread
      simp only [hread]
      cases hbs : bs.mapM f with
      | none =>
        rw [hbs] at hmore
        obtain ⟨e, he⟩ := hmore
        simp only [he]
        exact ⟨e, rfl⟩
      | some as =>
        rw [hbs] at hmore
        obtain ⟨left, hleft, hend⟩ := hmore
        simp only [hleft]
        exact ⟨left, rfl, hend⟩
  induction h generalizing bs fuel with
  | @nil first blanks hblanks =>
    obtain rfl := List.forall₂_nil_right_iff.mp hparts
    obtain ⟨fuel, rfl⟩ := Nat.exists_eq_add_one.mpr hfuel
    obtain ⟨hnone, hend⟩ := nextItem_closing hblanks first rest
    rw [List.append_assoc, List.singleton_append]
    refine ⟨_, ?_, hend⟩
    rw [items, hnone]
    rfl
  | first hblanks h ih =>
    obtain ⟨b, bs, ⟨hopens, hpart⟩, hmore, rfl⟩ := List.forall₂_cons_right_iff.mp hparts
    obtain ⟨fuel, rfl⟩ := Nat.exists_eq_add_one.mpr (Nat.zero_lt_of_lt hfuel)
    rw [List.append_assoc, List.append_assoc]
    exact hnext hpart h (nextItem_first hblanks hopens _) (ih hmore (Nat.lt_of_succ_lt_succ hfuel))
  | next hblanks hblanks' h ih =>
    obtain ⟨b, bs, ⟨hopens, hpart⟩, hmore, rfl⟩ := List.forall₂_cons_right_iff.mp hparts
    obtain ⟨fuel, rfl⟩ := Nat.exists_eq_add_one.mpr (Nat.zero_lt_of_lt hfuel)
    rw [List.append_assoc, List.cons_append, List.append_assoc, List.append_assoc]
    exact hnext hpart h (nextItem_next hblanks hblanks' hopens _)
      (ih hmore (Nat.lt_of_succ_lt_succ hfuel))

/-- An array is read as its items are. -/
theorem reads_listOf {item : Reader α} {parts : List (List Char)} {text : List Char}
    (h : Sequence ']' true parts text) {f : β → Option α} {bs : List β}
    (hparts : List.Forall₂ (fun b part => Opens part ∧ Reads item part (f b)) bs parts) :
    Reads (listOf item) ('[' :: text) (bs.mapM f) := by
  intro blanks rest hblanks _
  have hfuel : parts.length < (text ++ rest).length + 1 := by
    have hlength := h.length_le
    rw [List.length_append]
    omega
  have hitems := items_sequence h hparts rest hfuel
  unfold listOf
  rw [List.cons_append, valueStart_append hblanks rfl]
  simp only [if_true]
  cases hbs : bs.mapM f with
  | none =>
    rw [hbs] at hitems
    obtain ⟨e, he⟩ := hitems
    rw [he]
    rfl
  | some as =>
    rw [hbs] at hitems
    obtain ⟨left, hleft, hend⟩ := hitems
    rw [hleft]
    simp only [hend]
    rfl

/-- An array is read if its items are. -/
theorem gives_listOf {item : Reader α} {parts : List (List Char)} {text : List Char}
    (h : Sequence ']' true parts text) {as : List α}
    (hparts : List.Forall₂ (fun a part => Opens part ∧ Gives item part a) as parts) :
    Gives (listOf item) ('[' :: text) as := by
  have hread := reads_listOf h (f := some)
    (hparts.imp fun _ _ hpart => ⟨hpart.1, reads_some_iff.mpr hpart.2⟩)
  rw [show as.mapM some = some (as.map id) from List.mapM_pure, List.map_id] at hread
  exact reads_some_iff.mp hread

/-! ## Members -/

/-- A member whose name spells a text. -/
structure NamedMember extends Member where
  key : String
  spelled : Spells name key.toList

theorem Member.text_append (m : Member) (s : List Char) :
    m.text ++ s = '\"' :: (m.name ++ '\"' :: (m.before ++ ':' :: (m.after ++ (m.value ++ s)))) := by
  simp [Member.text]

theorem nextName_closing {blanks : List Char} (hblanks : Blank blanks) (first : Bool)
    (rest : List Char) :
    nextName first (blanks ++ '\x7d' :: rest) = .ok none ∧
      objectEnd (blanks ++ '\x7d' :: rest) = .ok rest := by
  unfold nextName objectEnd
  rw [skipBlanks_append hblanks, skipBlanks_cons _ rfl]
  exact ⟨rfl, rfl⟩

theorem nextName_first {blanks : List Char} (hblanks : Blank blanks) (s : List Char) :
    nextName true (blanks ++ '\"' :: s) = .ok (some s) := by
  unfold nextName
  rw [skipBlanks_append hblanks, skipBlanks_cons _ rfl]
  rfl

theorem nextName_next {blanks blanks' : List Char} (hblanks : Blank blanks)
    (hblanks' : Blank blanks') (s : List Char) :
    nextName false (blanks ++ ',' :: (blanks' ++ '\"' :: s)) = .ok (some s) := by
  unfold nextName
  rw [skipBlanks_append hblanks, skipBlanks_cons _ rfl]
  simp only [skipBlanks_append hblanks', skipBlanks_cons _ (show isBlank '\"' = false from rfl)]
  rfl

section

variable {fields : List (Field α)} {m : NamedMember} {first : Bool} {fuel : Nat}
  {seen : List String} {value : α} {s behind : List Char}
  (hfound : nextName first s = .ok (some (m.name ++ '\"' :: (m.before ++ ':' ::
    (m.after ++ (m.value ++ behind))))))
  (hbehind : Delimited behind)

include hfound hbehind

/-- A member that the record has, and that was not seen before, changes the record. -/
theorem members_known {field : Field α}
    (hfield : fields.find? (fun f => decide (f.name = m.key)) = some field) (hseen : m.key ∉ seen)
    {value' : α} (hread : Gives (field.read value) m.value value') :
    members fields (fuel + 1) first seen value s =
      members fields fuel false (m.key :: seen) value' behind := by
  have hnew : ¬ seen.contains m.key = true := fun h => hseen (List.contains_iff_mem.mp h)
  rw [members, hfound]
  simp only [m.spelled.quotedText_append, hfield, if_neg hnew, colon_append m.blank_before,
    hread m.after behind m.blank_after hbehind]

/-- A field ends the reading if it was seen before, if it is not read, or if what is behind it is
not. -/
theorem members_field_error {field : Field α}
    (hfield : fields.find? (fun f => decide (f.name = m.key)) = some field) {value? : Option α}
    (hread : Reads (field.read value) m.value value?)
    (hmore : ∀ value', value? = some value' →
      ∃ e, members fields fuel false (m.key :: seen) value' behind = .error e) :
    ∃ e, members fields (fuel + 1) first seen value s = .error e := by
  by_cases hseen : m.key ∈ seen
  · have hcontains : seen.contains m.key = true := List.contains_iff_mem.mpr hseen
    rw [members, hfound]
    simp only [m.spelled.quotedText_append, hfield, if_pos hcontains]
    exact ⟨_, rfl⟩
  cases value? with
  | none =>
    have hnew : ¬ seen.contains m.key = true := fun h => hseen (List.contains_iff_mem.mp h)
    obtain ⟨e, he⟩ := hread.eq_error m.blank_after hbehind
    rw [members, hfound]
    simp only [m.spelled.quotedText_append, hfield, if_neg hnew, colon_append m.blank_before, he]
    exact ⟨e, rfl⟩
  | some value' =>
    rw [members_known hfound hbehind hfield hseen (reads_some_iff.mp hread)]
    exact hmore value' rfl

/-- A member that the record does not have is stepped over. -/
theorem members_other (hfield : fields.find? (fun f => decide (f.name = m.key)) = none)
    (hvalue : IsValue m.value) :
    members fields (fuel + 1) first seen value s = members fields fuel false seen value behind := by
  rw [members, hfound]
  simp only [m.spelled.quotedText_append, hfield, colon_append m.blank_before,
    hvalue.skipValue_append m.blank_after hbehind]

end

/-- The names of the fields that are among the members, in their order. -/
def knownKeys (fields : List (Field α)) (ms : List NamedMember) : List String :=
  (ms.map NamedMember.key).filter fun key => fields.any fun field => decide (field.name = key)

/-- How the members of an object may be read into a record that is known as far as its fields were
seen: a field is read into what was known before, once at most, and what is no field is a value. -/
structure Readable (fields : List (Field α)) (sofar : List String → α) (ms : List NamedMember) :
    Prop where
  field : ∀ m ∈ ms, ∀ f ∈ fields, f.name = m.key → ∀ seen, m.key ∉ seen →
    Gives (f.read (sofar seen)) m.value (sofar (m.key :: seen))
  other : ∀ m ∈ ms, (∀ f ∈ fields, f.name ≠ m.key) → IsValue m.value
  nodup : (knownKeys fields ms).Nodup

section

variable {fields : List (Field α)} {sofar : List String → α} {m : NamedMember}
  {ms : List NamedMember}

theorem Readable.tail (h : Readable fields sofar (m :: ms)) : Readable fields sofar ms where
  field m' hm' := h.field m' (List.mem_cons_of_mem _ hm')
  other m' hm' := h.other m' (List.mem_cons_of_mem _ hm')
  nodup := h.nodup.sublist ((List.sublist_cons_self _ _).filter _)

/-- The first member is read or stepped over, and the fields that were seen are known. -/
theorem Readable.head (h : Readable fields sofar (m :: ms)) {seen : List String}
    (hseen : ∀ key ∈ knownKeys fields (m :: ms), key ∉ seen) :
    ∃ seen', (knownKeys fields (m :: ms)).reverse ++ seen =
        (knownKeys fields ms).reverse ++ seen' ∧
      (∀ key ∈ knownKeys fields ms, key ∉ seen') ∧
      ∀ {first : Bool} {fuel : Nat} {s behind : List Char},
        nextName first s = .ok (some (m.name ++ '\"' :: (m.before ++ ':' ::
          (m.after ++ (m.value ++ behind))))) → Delimited behind →
        members fields (fuel + 1) first seen (sofar seen) s =
          members fields fuel false seen' (sofar seen') behind := by
  cases hfield : fields.find? (fun f => decide (f.name = m.key)) with
  | some f =>
    have hmem : f ∈ fields := List.mem_of_find?_eq_some hfield
    have hname : f.name = m.key := of_decide_eq_true (List.find?_some hfield :)
    have hkeys : knownKeys fields (m :: ms) = m.key :: knownKeys fields ms := by
      refine List.filter_cons_of_pos (List.any_eq_true.mpr ⟨f, hmem, decide_eq_true hname⟩)
    rw [hkeys] at hseen ⊢
    have hnodup := h.nodup
    rw [hkeys, List.nodup_cons] at hnodup
    refine ⟨m.key :: seen, ?_, ?_, ?_⟩
    · rw [List.reverse_cons, List.append_assoc]
      rfl
    · intro key hkey hmem
      rcases List.mem_cons.mp hmem with rfl | hmem
      · exact hnodup.1 hkey
      · exact hseen key (List.mem_cons_of_mem _ hkey) hmem
    · -- the field is new, for no field is among the members twice
      intro first fuel s behind hfound hbehind
      have hnew : m.key ∉ seen := hseen m.key List.mem_cons_self
      exact members_known hfound hbehind hfield hnew
        (h.field m List.mem_cons_self f hmem hname seen hnew)
  | none =>
    -- the member is no field, so the same fields are known behind it
    have hno : ∀ f ∈ fields, f.name ≠ m.key := fun f hf hname =>
      List.find?_eq_none.mp hfield f hf (decide_eq_true hname)
    have hkeys : knownKeys fields (m :: ms) = knownKeys fields ms := by
      refine List.filter_cons_of_neg fun hany => ?_
      obtain ⟨f, hf, hname⟩ := List.any_eq_true.mp hany
      exact hno f hf (of_decide_eq_true hname)
    rw [hkeys] at hseen ⊢
    refine ⟨seen, rfl, hseen, fun hfound hbehind => ?_⟩
    exact members_other hfound hbehind hfield (h.other m List.mem_cons_self hno)

end

/-- The members are read one after the other, up to the end of the object. -/
theorem members_sequence {fields : List (Field α)} {sofar : List String → α} {first : Bool}
    {ms : List NamedMember} {text : List Char}
    (h : Sequence '\x7d' first (ms.map fun m => m.text) text) (hms : Readable fields sofar ms)
    {seen : List String} (hseen : ∀ key ∈ knownKeys fields ms, key ∉ seen) (rest : List Char)
    {fuel : Nat} (hfuel : ms.length < fuel) :
    Closes objectEnd rest (members fields fuel first seen (sofar seen) (text ++ rest))
      (some (sofar ((knownKeys fields ms).reverse ++ seen))) := by
  generalize hparts : (ms.map fun m => m.text) = parts at h
  induction h generalizing ms seen fuel with
  | @nil first blanks hblanks =>
    obtain rfl := List.map_eq_nil_iff.mp hparts
    obtain ⟨fuel, rfl⟩ := Nat.exists_eq_add_one.mpr hfuel
    obtain ⟨hnone, hend⟩ := nextName_closing hblanks first rest
    rw [List.append_assoc, List.singleton_append]
    refine ⟨_, ?_, hend⟩
    rw [members, hnone]
    rfl
  | @first blanks part text parts hblanks h ih =>
    obtain ⟨m, ms, rfl, rfl, hmore⟩ := List.map_eq_cons_iff.mp hparts
    obtain ⟨fuel, rfl⟩ := Nat.exists_eq_add_one.mpr (Nat.zero_lt_of_lt hfuel)
    obtain ⟨seen', hkeys, hseen', hstep⟩ := hms.head hseen
    rw [List.append_assoc, List.append_assoc, m.text_append, hkeys,
      hstep (nextName_first hblanks _) (h.delimited (Or.inr rfl) rest)]
    exact ih hms.tail hseen' (Nat.lt_of_succ_lt_succ hfuel) hmore
  | @next blanks blanks' part text parts hblanks hblanks' h ih =>
    obtain ⟨m, ms, rfl, rfl, hmore⟩ := List.map_eq_cons_iff.mp hparts
    obtain ⟨fuel, rfl⟩ := Nat.exists_eq_add_one.mpr (Nat.zero_lt_of_lt hfuel)
    obtain ⟨seen', hkeys, hseen', hstep⟩ := hms.head hseen
    rw [List.append_assoc, List.cons_append, List.append_assoc, List.append_assoc, m.text_append,
      hkeys, hstep (nextName_next hblanks hblanks' _) (h.delimited (Or.inr rfl) rest)]
    exact ih hms.tail hseen' (Nat.lt_of_succ_lt_succ hfuel) hmore

/-- A record is read from an object as far as its fields are among the members. -/
theorem gives_record (expected : String) {fields : List (Field α)} {sofar : List String → α}
    {ms : List NamedMember} {text : List Char}
    (h : Sequence '\x7d' true (ms.map fun m => m.text) text) (hms : Readable fields sofar ms) :
    Gives (record expected fields (sofar [])) ('\x7b' :: text)
      (sofar (knownKeys fields ms).reverse) := by
  intro blanks rest hblanks _
  have hfuel : ms.length < (text ++ rest).length + 1 := by
    have hlength := h.length_le
    rw [List.length_map] at hlength
    rw [List.length_append]
    omega
  obtain ⟨left, hmembers, hend⟩ := members_sequence h hms
    (fun _ _ => List.not_mem_nil) rest hfuel
  rw [List.append_nil] at hmembers
  unfold record
  rw [List.cons_append, valueStart_append hblanks rfl]
  simp only [show ¬ '\x7b' = '[' by decide, if_false, if_true, hmembers, hend]
  rfl

/-! ## Records that are not read -/

/-- The member is a field, which is read from its value or is not. -/
def Decided (fields : List (Field α)) (m : NamedMember) : Prop :=
  ∃ field, fields.find? (fun f => decide (f.name = m.key)) = some field ∧
    ∀ value, ∃ value?, Reads (field.read value) m.value value?

/-- The member is a field, which is not read from its value. -/
def Unread (fields : List (Field α)) (m : NamedMember) : Prop :=
  ∃ field, fields.find? (fun f => decide (f.name = m.key)) = some field ∧
    ∀ value, Reads (field.read value) m.value none

/-- If all members are fields and one of them is not read, none of them is. -/
theorem members_unread {fields : List (Field α)} {first : Bool} {ms : List NamedMember}
    {text : List Char} (h : Sequence '\x7d' first (ms.map fun m => m.text) text)
    (hms : ∀ m ∈ ms, Decided fields m) (hunread : ∃ m ∈ ms, Unread fields m) (rest : List Char)
    (fuel : Nat) (seen : List String) (value : α) :
    ∃ e, members fields fuel first seen value (text ++ rest) = .error e := by
  generalize hparts : (ms.map fun m => m.text) = parts at h
  -- what the members come to, once the name of the next one was found
  have hnext {first : Bool} {m : NamedMember} {ms : List NamedMember} {s text : List Char}
      {fuel : Nat} {seen : List String} {value : α}
      (hfound : nextName first s = .ok (some (m.name ++ '\"' :: (m.before ++ ':' ::
        (m.after ++ (m.value ++ (text ++ rest)))))))
      (hbehind : Delimited (text ++ rest)) (hm : Decided fields m)
      (hunread : ∃ m' ∈ m :: ms, Unread fields m')
      (hmore : (∃ m' ∈ ms, Unread fields m') → ∀ value,
        ∃ e, members fields fuel false (m.key :: seen) value (text ++ rest) = .error e) :
      ∃ e, members fields (fuel + 1) first seen value s = .error e := by
    obtain ⟨m', hm', hunread⟩ := hunread
    rcases List.mem_cons.mp hm' with rfl | hm'
    · obtain ⟨field, hfield, hnone⟩ := hunread
      exact members_field_error hfound hbehind hfield (hnone value) nofun
    · obtain ⟨field, hfield, hread⟩ := hm
      obtain ⟨value?, hvalue⟩ := hread value
      exact members_field_error hfound hbehind hfield hvalue fun value' _ =>
        hmore ⟨m', hm', hunread⟩ value'
  induction h generalizing ms fuel seen value with
  | nil hblanks =>
    obtain rfl := List.map_eq_nil_iff.mp hparts
    obtain ⟨m, hm, -⟩ := hunread
    cases hm
  | @first blanks part text parts hblanks h ih =>
    obtain ⟨m, ms, rfl, rfl, hmore⟩ := List.map_eq_cons_iff.mp hparts
    obtain ⟨hm, hms⟩ := List.forall_mem_cons.mp hms
    cases fuel with
    | zero => exact ⟨_, rfl⟩
    | succ fuel =>
      rw [List.append_assoc, List.append_assoc, m.text_append]
      exact hnext (nextName_first hblanks _) (h.delimited (Or.inr rfl) rest) hm hunread
        fun hunread value => ih hms hunread fuel _ value hmore
  | @next blanks blanks' part text parts hblanks hblanks' h ih =>
    obtain ⟨m, ms, rfl, rfl, hmore⟩ := List.map_eq_cons_iff.mp hparts
    obtain ⟨hm, hms⟩ := List.forall_mem_cons.mp hms
    cases fuel with
    | zero => exact ⟨_, rfl⟩
    | succ fuel =>
      rw [List.append_assoc, List.cons_append, List.append_assoc, List.append_assoc, m.text_append]
      exact hnext (nextName_next hblanks hblanks' _) (h.delimited (Or.inr rfl) rest) hm hunread
        fun hunread value => ih hms hunread fuel _ value hmore

/-- No record is read from an object of fields if one of these is not read. -/
theorem reads_record_none (expected : String) {fields : List (Field α)} (default : α)
    {ms : List NamedMember} {text : List Char}
    (h : Sequence '\x7d' true (ms.map fun m => m.text) text)
    (hms : ∀ m ∈ ms, Decided fields m) (hunread : ∃ m ∈ ms, Unread fields m) :
    Reads (record expected fields default) ('\x7b' :: text) none := by
  intro blanks rest hblanks _
  obtain ⟨e, he⟩ := members_unread h hms hunread rest ((text ++ rest).length + 1) [] default
  unfold record
  rw [List.cons_append, valueStart_append hblanks rfl]
  simp only [show ¬ '\x7b' = '[' by decide, if_false, if_true, he]
  rfl

/-! ## Objects for a record -/

/-- Lists that are related item by item have a partner for each item of the first. -/
theorem exists_partner {β : Type} {r : α → β → Prop} {as : List α} {bs : List β}
    (h : List.Forall₂ r as bs) {a : α} (ha : a ∈ as) : ∃ b ∈ bs, r a b := by
  induction h with
  | nil => cases ha
  | @cons a' b' as bs hr hrest ih =>
    rcases List.mem_cons.mp ha with rfl | ha
    · exact ⟨b', List.mem_cons_self, hr⟩
    · obtain ⟨b, hb, hab⟩ := ih ha
      exact ⟨b, List.mem_cons_of_mem _ hb, hab⟩

/-- Lists that agree item by item in what is taken from the items agree in all of it. -/
theorem map_eq_map_of_forall₂ {β γ : Type} {f : α → γ} {g : β → γ} {as : List α} {bs : List β}
    (h : List.Forall₂ (fun a b => f a = g b) as bs) : as.map f = bs.map g := by
  rw [← List.forall₂_eq_eq_eq, List.forall₂_map_left_iff, List.forall₂_map_right_iff]
  exact h

/-- What may stand for a field in an object: its name, the texts for its value, and whether it may
be left out. -/
structure FieldText where
  name : String
  IsWritten : List Char → Prop
  Omittable : Prop

/-- An object tells the values of some fields: each of them is written once, or left out if that is
allowed. What else there is has other names, and any values. -/
structure Tells (texts : List FieldText) (ms : List NamedMember) : Prop where
  written : ∀ m ∈ ms, ∀ text ∈ texts, text.name = m.key → text.IsWritten m.value
  omitted : ∀ text ∈ texts, text.name ∉ ms.map NamedMember.key → text.Omittable
  once : ((ms.map NamedMember.key).filter fun key =>
    texts.any fun text => decide (text.name = key)).Nodup
  other : ∀ m ∈ ms, (∀ text ∈ texts, text.name ≠ m.key) → IsValue m.value

/-- An object that tells the values of some fields, with its members in any order. -/
def IsObject (texts : List FieldText) (s : List Char) : Prop :=
  ∃ ms text, s = '\x7b' :: text ∧ Sequence '\x7d' true (ms.map fun m => m.text) text ∧
    Tells texts ms

theorem IsObject.opens {texts : List FieldText} {s : List Char} (h : IsObject texts s) :
    Opens s := by
  obtain ⟨ms, text, rfl, -, -⟩ := h
  exact ⟨'\x7b', text, rfl, by decide⟩

/-- Whatever fields were seen before, the field is read from each text for it, and then is known. -/
structure ReadsField (sofar : List String → α) (field : Field α) (text : FieldText) : Prop where
  name_eq : field.name = text.name
  gives : ∀ seen, text.name ∉ seen → ∀ s, text.IsWritten s →
    Gives (field.read (sofar seen)) s (sofar (text.name :: seen))

/-- A record is read from each object that tells the values of its fields. -/
theorem IsObject.gives (expected : String) {fields : List (Field α)} {texts : List FieldText}
    {sofar : List String → α} {a : α}
    (hfields : List.Forall₂ (ReadsField sofar) fields texts)
    (hall : ∀ seen, (∀ text ∈ texts, text.name ∉ seen → text.Omittable) → sofar seen = a)
    {s : List Char} (h : IsObject texts s) : Gives (record expected fields (sofar [])) s a := by
  obtain ⟨ms, text, rfl, htext, hms⟩ := h
  have hsame (key : String) : (∃ field ∈ fields, field.name = key) ↔
      ∃ text ∈ texts, text.name = key := by
    have hnames : fields.map Field.name = texts.map FieldText.name :=
      map_eq_map_of_forall₂ (hfields.imp fun _ _ h => h.name_eq)
    rw [← List.mem_map, hnames, List.mem_map]
  have hkeys : knownKeys fields ms = (ms.map NamedMember.key).filter fun key =>
      texts.any fun text => decide (text.name = key) := by
    refine List.filter_congr fun key _ => ?_
    rw [Bool.eq_iff_iff, List.any_eq_true, List.any_eq_true]
    simpa only [decide_eq_true_eq] using hsame key
  have hreadable : Readable fields sofar ms := by
    refine ⟨fun m hm field hfield hname seen hnew => ?_, fun m hm hno => ?_, ?_⟩
    · obtain ⟨text, htext, ⟨hnames, hread⟩⟩ := exists_partner hfields hfield
      rw [← hname, hnames] at hnew ⊢
      exact hread seen hnew m.value (hms.written m hm text htext (hnames.symm.trans hname))
    · refine hms.other m hm fun text htext hname => ?_
      obtain ⟨field, hfield, hname⟩ := (hsame m.key).mpr ⟨text, htext, hname⟩
      exact hno field hfield hname
    · rw [hkeys]
      exact hms.once
  rw [← hall (knownKeys fields ms).reverse ?_]
  · exact gives_record expected htext hreadable
  · intro text htext hnew
    refine hms.omitted text htext fun hmem => hnew ?_
    rw [List.mem_reverse, hkeys, List.mem_filter]
    exact ⟨hmem, List.any_eq_true.mpr ⟨text, htext, decide_eq_true rfl⟩⟩

/-! ## Written objects -/

section

variable (sp : Spacing) (depth : Nat)

theorem sequence_spacedItems (first : Bool) (items : List Json) :
    Sequence ']' first (items.map (spacedChars sp (depth + 1)))
      (spacedItems sp depth first items) := by
  induction items generalizing first with
  | nil =>
    rw [spacedItems]
    cases first with
    | true => exact .nil blank_nil
    | false => exact .nil (sp.blank_line depth)
  | cons item items ih =>
    rw [spacedItems, List.map_cons]
    cases first with
    | true => exact .first (sp.blank_line _) (ih false)
    | false => exact .next blank_nil (sp.blank_line _) (ih false)

/-- A member as it is written. -/
def writtenMember (member : String × Json) : NamedMember where
  name := member.1.toList.flatMap escape
  before := []
  after := sp.gap
  value := spacedChars sp (depth + 1) member.2
  blank_before := blank_nil
  blank_after := sp.blank_gap
  key := member.1
  spelled := spells_flatMap_escape _

theorem sequence_spacedMembers (first : Bool) (members : List (String × Json)) :
    Sequence '\x7d' first ((members.map (writtenMember sp depth)).map fun m => m.text)
      (spacedMembers sp depth first members) := by
  induction members generalizing first with
  | nil =>
    rw [spacedMembers]
    cases first with
    | true => exact .nil blank_nil
    | false => exact .nil (sp.blank_line depth)
  | cons member members ih =>
    obtain ⟨name, value⟩ := member
    have htext (rest : List Char) : quote name ++ ':' :: (sp.gap ++
        (spacedChars sp (depth + 1) value ++ rest)) =
          (writtenMember sp depth (name, value)).text ++ rest := by
      simp [Member.text, writtenMember, quote]
    rw [spacedMembers, List.map_cons, List.map_cons, htext]
    cases first with
    | true => exact .first (sp.blank_line _) (ih false)
    | false => exact .next blank_nil (sp.blank_line _) (ih false)

theorem isValue_array {items : List Json}
    (h : ∀ item ∈ items, IsValue (spacedChars sp (depth + 1) item)) :
    IsValue (spacedChars sp depth (.array items)) := by
  rw [spacedChars]
  exact .array (sequence_spacedItems sp depth true items) (List.forall_mem_map.mpr h)

theorem isValue_object {members : List (String × Json)}
    (h : ∀ m ∈ members, IsValue (spacedChars sp (depth + 1) m.2)) :
    IsValue (spacedChars sp depth (.object members)) := by
  have hsequence := sequence_spacedMembers sp depth true members
  rw [show (members.map (writtenMember sp depth)).map (fun m => m.text) =
    (members.map fun m => (writtenMember sp depth m).toMember).map Member.text by simp] at hsequence
  rw [spacedChars]
  refine .object hsequence ?_ (List.forall_mem_map.mpr h)
  exact List.forall_mem_map.mpr fun m _ => (spells_flatMap_escape _).isText

theorem opens_object (members : List (String × Json)) :
    Opens (spacedChars sp depth (.object members)) :=
  ⟨'\x7b', spacedMembers sp depth true members, by rw [spacedChars], by decide⟩

/-- An object is one for a record if its members tell the values of the fields. -/
theorem isObject_spacedChars {texts : List FieldText} {members : List (String × Json)}
    (h : Tells texts (members.map (writtenMember sp depth))) :
    IsObject texts (spacedChars sp depth (.object members)) :=
  ⟨_, _, by rw [spacedChars], sequence_spacedMembers sp depth true members, h⟩

end

/-- Members that are all the fields of a record tell their values. -/
theorem Tells.of_forall₂ {texts : List FieldText} {ms : List NamedMember}
    (hnodup : (texts.map FieldText.name).Nodup)
    (h : List.Forall₂ (fun m text => m.key = text.name ∧ text.IsWritten m.value) ms texts) :
    Tells texts ms := by
  have hkeys : ms.map NamedMember.key = texts.map FieldText.name :=
    map_eq_map_of_forall₂ (h.imp fun _ _ h => h.1)
  refine ⟨fun m hm text htext hname => ?_, fun text htext hnot => ?_, ?_, fun m hm hno => ?_⟩
  · obtain ⟨text', htext', hkey, hwritten⟩ := exists_partner h hm
    rw [List.inj_on_of_nodup_map hnodup htext htext' (hname.trans hkey)]
    exact hwritten
  · rw [hkeys] at hnot
    exact absurd (List.mem_map_of_mem htext) hnot
  · rw [hkeys]
    exact hnodup.filter _
  · obtain ⟨text, htext, hkey, -⟩ := exists_partner h hm
    exact absurd hkey.symm (hno text htext)

end OnScreen.Json
