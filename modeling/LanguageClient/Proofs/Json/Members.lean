import LanguageClient.Json.Parser
import LanguageClient.Proofs.Sequence
import Mathlib.Data.List.Induction
import Mathlib.Data.List.Pairwise
import Mathlib.Data.String.Basic

/-!
# Members of an object

Members in the order of their keys are known by what is found under each key.  However
members are given, the object made of them is in this order, and so is every object in a
value that is read from text.
-/

namespace LanguageClient.Json

namespace Members

/-! ## What is found under a key -/

theorem get?_cons (key : String) (value : Json) (members : Members) (wanted : String) :
    get? ((key, value) :: members) wanted =
      if key = wanted then some value else get? members wanted := by
  by_cases same : key = wanted
  · simp [get?, same]
  · simp [get?, same]

theorem get?_append (members members' : Members) (wanted : String) :
    get? (members ++ members') wanted = (get? members wanted).or (get? members' wanted) := by
  simp only [get?, List.find?_append, Option.map_or]

/-- A member that may be missing is found under its own key, if it is there. -/
theorem get?_toList (key : String) (value : Option Json) (wanted : String) :
    get? (value.map fun value => (key, value)).toList wanted =
      if key = wanted then value else none := by
  cases value with
  | none => simp [get?]
  | some value => simp only [Option.map_some, Option.toList_some, get?_cons]; rfl

/-- What is found under a key that is left is what was found before. -/
theorem get?_filter (keep : String → Bool) (members : Members) (wanted : String) :
    get? (List.filter (fun member => keep member.1) members) wanted =
      if keep wanted then get? members wanted else none := by
  induction members with
  | nil => simp [get?]
  | cons head rest inductionHypothesis =>
      obtain ⟨key, value⟩ := head
      by_cases same : key = wanted
      · subst same
        cases isKept : keep key <;> simp [isKept, get?_cons, inductionHypothesis]
      · cases isKept : keep key <;> simp [isKept, get?_cons, same, inductionHypothesis]

/-- A value is found under its key once it is put there, and the others stay. -/
theorem get?_insert
    (key : String) (value : Json) (members : Members) (wanted : String) :
    get? (insert key value members) wanted =
      if key = wanted then some value else get? members wanted := by
  induction members with
  | nil => simp only [insert, get?_cons]
  | cons head rest inductionHypothesis =>
      obtain ⟨key', value'⟩ := head
      by_cases same : key = key'
      · subst same
        simp only [insert, if_true, get?_cons]
        split <;> rfl
      · by_cases before : key < key'
        · simp only [insert, same, before, if_false, if_true, get?_cons]
        · simp only [insert, same, before, if_false, get?_cons, inductionHypothesis]
          split
          · rename_i found
            rw [if_neg fun wanted => same (wanted.trans found.symm)]
          · rfl

theorem ofList_concat (members : List (String × Json)) (key : String) (value : Json) :
    ofList (members ++ [(key, value)]) = insert key value (ofList members) := by
  simp [ofList]

/-- Of the members given under one key the last counts. -/
theorem get?_ofList (members : List (String × Json)) (wanted : String) :
    get? (ofList members) wanted = get? members.reverse wanted := by
  induction members using List.reverseRecOn with
  | nil => rfl
  | append_singleton members last inductionHypothesis =>
      obtain ⟨key, value⟩ := last
      rw [ofList_concat, get?_insert, List.reverse_append, List.reverse_singleton,
        List.singleton_append, get?_cons, inductionHypothesis]

theorem get?_ofList_append (members members' : List (String × Json)) (wanted : String) :
    get? (ofList (members ++ members')) wanted =
      (get? (ofList members') wanted).or (get? (ofList members) wanted) := by
  rw [get?_ofList, List.reverse_append, get?_append, ← get?_ofList, ← get?_ofList]

theorem mem_of_mem_insert
    {key : String} {value : Json} {members : Members} {member : String × Json}
    (inserted : member ∈ insert key value members) :
    member = (key, value) ∨ member ∈ members := by
  induction members with
  | nil => exact .inl (List.mem_singleton.mp inserted)
  | cons head rest inductionHypothesis =>
      obtain ⟨key', value'⟩ := head
      simp only [insert] at inserted
      split at inserted
      · exact (List.mem_cons.mp inserted).imp_right (List.mem_cons_of_mem _)
      · split at inserted
        · exact List.mem_cons.mp inserted
        · rcases List.mem_cons.mp inserted with rfl | inRest
          · exact .inr List.mem_cons_self
          · exact (inductionHypothesis inRest).imp_right (List.mem_cons_of_mem _)

/-- An object has no members but those that were given. -/
theorem mem_of_mem_ofList
    {members : List (String × Json)} {member : String × Json}
    (inObject : member ∈ ofList members) :
    member ∈ members := by
  induction members using List.reverseRecOn with
  | nil => exact inObject
  | append_singleton members last inductionHypothesis =>
      rw [ofList_concat] at inObject
      rcases mem_of_mem_insert inObject with rfl | earlier
      · exact List.mem_append_right _ (List.mem_singleton.mpr rfl)
      · exact List.mem_append_left _ (inductionHypothesis earlier)

theorem mem_of_get?
    {members : Members} {key : String} {value : Json} (found : members.get? key = some value) :
    (key, value) ∈ members := by
  obtain ⟨member, isFirst, rfl⟩ := Option.map_eq_some_iff.mp found
  have isWanted := List.find?_some isFirst
  rw [← of_decide_eq_true isWanted]
  exact List.mem_of_find?_eq_some isFirst

/-! ## Members in order -/

/-- Whether members are in the order of their keys, each key once. -/
def InOrder (members : Members) : Prop :=
  members.Pairwise fun member later => member.1 < later.1

instance (members : Members) : Decidable members.InOrder :=
  inferInstanceAs (Decidable (List.Pairwise _ _))

section Order

variable {members members' : Members}

theorem InOrder.insert (inOrder : members.InOrder) (key : String) (value : Json) :
    (insert key value members).InOrder := by
  induction members with
  | nil => exact List.pairwise_singleton _ _
  | cons head rest inductionHypothesis =>
      obtain ⟨key', value'⟩ := head
      obtain ⟨areBehind, inOrder'⟩ := List.pairwise_cons.mp inOrder
      rw [Members.insert]
      split
      · rename_i same
        exact List.pairwise_cons.mpr ⟨same ▸ areBehind, inOrder'⟩
      · rename_i different
        split
        · rename_i before
          refine List.pairwise_cons.mpr ⟨fun later member => ?_, inOrder⟩
          rcases List.mem_cons.mp member with rfl | isBehind
          · exact before
          · exact String.lt_trans before (areBehind later isBehind)
        · rename_i notBefore
          refine List.pairwise_cons.mpr ⟨fun later member => ?_, inductionHypothesis inOrder'⟩
          rcases mem_of_mem_insert member with rfl | isBehind
          · exact lt_of_le_of_ne (not_lt.mp notBefore) (Ne.symm different)
          · exact areBehind later isBehind

theorem inOrder_ofList (members : List (String × Json)) : (ofList members).InOrder := by
  induction members using List.reverseRecOn with
  | nil => exact List.Pairwise.nil
  | append_singleton members last inductionHypothesis =>
      rw [ofList_concat]
      exact inductionHypothesis.insert _ _

/-- A member whose key is behind all others is put behind them. -/
theorem insert_of_forall_lt
    {key : String} (value : Json) (areBefore : ∀ member, member ∈ members → member.1 < key) :
    insert key value members = members ++ [(key, value)] := by
  induction members with
  | nil => rfl
  | cons head rest inductionHypothesis =>
      obtain ⟨isBefore, areBefore⟩ := List.forall_mem_cons.mp areBefore
      simp only [insert, if_neg (ne_of_gt isBefore), if_neg (not_lt_of_gt isBefore),
        inductionHypothesis areBefore, List.cons_append]

theorem InOrder.ofList_eq (inOrder : members.InOrder) : ofList members = members := by
  induction members using List.reverseRecOn with
  | nil => rfl
  | append_singleton members last inductionHypothesis =>
      obtain ⟨inOrder', _, areBefore⟩ := List.pairwise_append.mp inOrder
      rw [ofList_concat, inductionHypothesis inOrder']
      exact insert_of_forall_lt last.2 fun member isBefore =>
        areBefore member isBefore last (List.mem_singleton.mpr rfl)

theorem InOrder.filter (inOrder : members.InOrder) (keep : String × Json → Bool) :
    InOrder (List.filter keep members) :=
  List.Pairwise.filter keep inOrder

theorem InOrder.mem_iff (inOrder : members.InOrder) (key : String) (value : Json) :
    (key, value) ∈ members ↔ members.get? key = some value := by
  constructor
  · intro member
    obtain ⟨before, behind, rfl⟩ := List.append_of_mem member
    have isFirst : List.find? (fun other => other.1 = key) (before ++ (key, value) :: behind) =
        some (key, value) := by
      refine List.find?_eq_some_iff_append.mpr ⟨decide_eq_true rfl, before, behind, rfl, ?_⟩
      intro other isBefore
      have less := (List.pairwise_append.mp inOrder).2.2 other isBefore _ List.mem_cons_self
      simpa using ne_of_lt less
    rw [get?, isFirst, Option.map_some]
  · exact mem_of_get?

theorem InOrder.nodup (inOrder : members.InOrder) : members.Nodup :=
  List.Pairwise.imp (fun less same => ne_of_lt less (congrArg Prod.fst same)) inOrder

/-- Two objects with the same values under all keys are one. -/
theorem InOrder.eq_of_get?
    (inOrder : members.InOrder) (inOrder' : members'.InOrder)
    (same : ∀ key, members.get? key = members'.get? key) :
    members = members' := by
  have permuted : members.Perm members' := by
    refine (List.perm_ext_iff_of_nodup inOrder.nodup inOrder'.nodup).mpr ?_
    rintro ⟨key, value⟩
    rw [inOrder.mem_iff, inOrder'.mem_iff, same]
  exact permuted.eq_of_pairwise
    (fun _ _ _ _ less greater => absurd greater (String.lt_asymm less)) inOrder inOrder'

end Order

end Members

/-! ## Values in order -/

mutual

/-- Whether the members of every object in a value are in order. -/
def isOrdered : Json → Bool
  | .array items => areOrderedItems items
  | .object members => decide (Members.InOrder members) && areOrderedMembers members
  | _ => true

def areOrderedItems : List Json → Bool
  | [] => true
  | item :: items => isOrdered item && areOrderedItems items

def areOrderedMembers : List (String × Json) → Bool
  | [] => true
  | (_, value) :: members => isOrdered value && areOrderedMembers members

end

theorem areOrderedItems_iff (items : List Json) :
    areOrderedItems items ↔ ∀ item, item ∈ items → item.isOrdered := by
  induction items with
  | nil => simp [areOrderedItems]
  | cons item items inductionHypothesis => simp [areOrderedItems, inductionHypothesis]

theorem areOrderedMembers_iff (members : List (String × Json)) :
    areOrderedMembers members ↔ ∀ member, member ∈ members → member.2.isOrdered := by
  induction members with
  | nil => simp [areOrderedMembers]
  | cons member members inductionHypothesis => simp [areOrderedMembers, inductionHypothesis]

section Ordered

variable {items : List Json} {members : Members}

theorem isOrdered_of_mem
    (ordered : (array items).isOrdered) {item : Json} (member : item ∈ items) :
    item.isOrdered :=
  (areOrderedItems_iff items).mp (by simpa only [isOrdered] using ordered) item member

theorem inOrder_of_isOrdered (ordered : (object members).isOrdered) : members.InOrder := by
  simp only [isOrdered, Bool.and_eq_true, decide_eq_true_eq] at ordered
  exact ordered.1

theorem isOrdered_of_member
    (ordered : (object members).isOrdered) {member : String × Json} (isMember : member ∈ members) :
    member.2.isOrdered := by
  simp only [isOrdered, Bool.and_eq_true] at ordered
  exact (areOrderedMembers_iff members).mp ordered.2 member isMember

theorem isOrdered_of_get?
    (ordered : (object members).isOrdered) {key : String} {value : Json}
    (found : members.get? key = some value) :
    value.isOrdered :=
  isOrdered_of_member ordered (Members.mem_of_get? found)

theorem isOrdered_ofMembers
    {members : List (String × Json)}
    (areOrdered : ∀ member, member ∈ members → member.2.isOrdered) :
    (ofMembers members).isOrdered := by
  simp only [ofMembers, isOrdered, Bool.and_eq_true, decide_eq_true_eq]
  exact ⟨Members.inOrder_ofList members, (areOrderedMembers_iff _).mpr fun member inObject =>
    areOrdered member (Members.mem_of_mem_ofList inObject)⟩

end Ordered

/-! ## Values that are read from text -/

/-- Whether a reader of values gives values in order only. -/
def ReadsOrdered (readItem : Input → Read Json) : Prop :=
  ∀ input value rest, readItem input = .ok (value, rest) → value.isOrdered

section Reading

variable {readItem : Input → Read Json} {fuel : Nat} {input rest : Input} {value : Json}

theorem isOrdered_of_readItems
    (readsOrdered : ReadsOrdered readItem) {read : List Json}
    (areOrdered : ∀ item, item ∈ read → item.isOrdered)
    (reads : readItems readItem fuel read input = .ok (value, rest)) :
    value.isOrdered := by
  induction fuel generalizing read input with
  | zero =>
      unfold readItems at reads
      split at reads
      · cases reads
      · cases reads
      · contradiction
  | succ fuel inductionHypothesis =>
      unfold readItems at reads
      split at reads
      · cases reads
      · cases reads
      · rename_i sameFuel _
        cases sameFuel
        -- in front are the closing bracket, the first item, or a comma and the next one
        split at reads
        · cases reads
          simpa [isOrdered, areOrderedItems_iff] using areOrdered
        · split at reads
          · obtain ⟨⟨item, left⟩, isNext, reads⟩ := bind_eq_ok_iff.mp reads
            exact inductionHypothesis
              (List.forall_mem_singleton.mpr (readsOrdered _ _ _ isNext)) reads
          · split at reads
            · split at reads
              · cases reads
              · cases reads
              · obtain ⟨⟨item, left⟩, isNext, reads⟩ := bind_eq_ok_iff.mp reads
                exact inductionHypothesis
                  (List.forall_mem_cons.mpr ⟨readsOrdered _ _ _ isNext, areOrdered⟩) reads
            · cases reads

theorem isOrdered_of_readMember
    (readsOrdered : ReadsOrdered readItem) {member : String × Json}
    (reads : readMember readItem fuel input = .ok (member, rest)) :
    member.2.isOrdered := by
  obtain ⟨⟨key, left⟩, _, reads⟩ := bind_eq_ok_iff.mp reads
  dsimp only at reads
  split at reads
  · cases reads
  · obtain ⟨⟨value, left⟩, isNext, reads⟩ := bind_eq_ok_iff.mp reads
    cases reads
    exact readsOrdered _ _ _ isNext
  · cases reads

theorem isOrdered_of_readMembers
    (readsOrdered : ReadsOrdered readItem) {read : List (String × Json)}
    (areOrdered : ∀ member, member ∈ read → member.2.isOrdered) {members : Members}
    (reads : readMembers readItem fuel read input = .ok (members, rest)) :
    (object members).isOrdered := by
  induction fuel generalizing read input with
  | zero =>
      unfold readMembers at reads
      split at reads
      · cases reads
      · cases reads
      · contradiction
  | succ fuel inductionHypothesis =>
      unfold readMembers at reads
      split at reads
      · cases reads
      · cases reads
      · rename_i sameFuel _
        cases sameFuel
        -- in front are the closing brace, the first member, or a comma and the next one
        split at reads
        · cases reads
          exact isOrdered_ofMembers fun member isMember =>
            areOrdered member (List.mem_reverse.mp isMember)
        · split at reads
          · split at reads
            · obtain ⟨⟨member, left⟩, isNext, reads⟩ := bind_eq_ok_iff.mp reads
              exact inductionHypothesis
                (List.forall_mem_singleton.mpr (isOrdered_of_readMember readsOrdered isNext)) reads
            · cases reads
          · split at reads
            · split at reads
              · cases reads
              · obtain ⟨⟨member, left⟩, isNext, reads⟩ := bind_eq_ok_iff.mp reads
                exact inductionHypothesis (List.forall_mem_cons.mpr
                  ⟨isOrdered_of_readMember readsOrdered isNext, areOrdered⟩) reads
              · cases reads
              · cases reads
            · cases reads

theorem isOrdered_of_map_eq_ok
    {α : Type} {first : Except Failure α} {make : α → Json × Input}
    (areOrdered : ∀ content, first = .ok content → (make content).1.isOrdered)
    (reads : first.map make = .ok (value, rest)) :
    value.isOrdered := by
  obtain ⟨content, isFirst, same⟩ := map_eq_ok_iff.mp reads
  have isOrdered := areOrdered content isFirst
  rwa [same] at isOrdered

theorem readsOrdered_readValue_of_inner
    {depth : Nat} (inner : ∀ depth', depth = depth' + 1 → ReadsOrdered (readValue fuel depth')) :
    ReadsOrdered (readValue fuel depth) := by
  intro input value rest reads
  unfold readValue at reads
  split at reads
  · cases reads
  · exact isOrdered_of_map_eq_ok (fun _ _ => rfl) reads
  · exact isOrdered_of_map_eq_ok (fun _ _ => rfl) reads
  · exact isOrdered_of_map_eq_ok (fun _ _ => rfl) reads
  · exact isOrdered_of_map_eq_ok (fun _ _ => rfl) reads
  · exact isOrdered_of_map_eq_ok (fun _ _ => rfl) reads
  · split at reads
    · cases reads
    · exact isOrdered_of_readItems (inner _ rfl) (List.forall_mem_nil _) reads
  · split at reads
    · cases reads
    · exact isOrdered_of_map_eq_ok
        (fun _ => isOrdered_of_readMembers (inner _ rfl) (List.forall_mem_nil _)) reads
  · split at reads
    · exact isOrdered_of_map_eq_ok (fun _ _ => rfl) reads
    · cases reads

theorem readsOrdered_readValue (fuel depth : Nat) : ReadsOrdered (readValue fuel depth) := by
  induction depth with
  | zero => exact readsOrdered_readValue_of_inner nofun
  | succ depth inductionHypothesis =>
      refine readsOrdered_readValue_of_inner ?_
      rintro _ ⟨⟩
      exact inductionHypothesis

/-- The members of every object that is read from text are in order. -/
theorem isOrdered_of_parse
    {text : List UInt8} (parsed : parse text = .ok value) : value.isOrdered := by
  obtain ⟨⟨found, left⟩, isFound, complete⟩ := bind_eq_ok_iff.mp (mapError_eq_ok_iff.mp parsed)
  dsimp only at complete
  split at complete
  · cases complete
    exact readsOrdered_readValue _ _ _ _ _ isFound
  · cases complete

end Reading

end LanguageClient.Json
