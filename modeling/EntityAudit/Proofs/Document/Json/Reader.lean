import EntityAudit.Document.Json.Draft
import EntityAudit.Proofs.Document.Json.Lexemes
import EntityAudit.Proofs.Text.Pieces

/-!
# `EntityAudit.Proofs.Document.Json.Reader` — a text is read to its end exactly if it is a document

A value has tokens, and a document is a text that spells the tokens of one value.  The reader takes the
tokens of a value to its draft.  Conversely, what the reader has seen so far is at every moment explained
by values: those before each place on the stack, and what was begun there.

## Contents

* `Value.induct` — induction over values
* `Value.tokens`, `Value.IsDocument` — the tokens of a value, and its documents
* `Regular`, `regular_tokens` — the tokens of a value can be told apart in a text
* `run_tokens` — the tokens of a value are read to its draft
* `Opened`, `Awaited.Explains`, `State.Explains` — what was read so far
* `Explains.step`, `Explains.run` — one token, and all tokens
* `read_eq_iff` — a text is read to its end exactly if it is a document
-/

namespace EntityAudit.Json

open Text (intercalate_cons intercalate_concat intercalate_concat_append)

/-! ## Values -/

/-- What holds of scalars, and of arrays and objects of values of which it holds, holds of all values. -/
theorem Value.induct {P : Value → Prop} (hscalar : ∀ value, P (.scalar value))
    (harray : ∀ items, (∀ v ∈ items, P v) → P (.array items))
    (hobject : ∀ members : List (String × Value), (∀ m ∈ members, P m.2) → P (.object members))
    (v : Value) : P v :=
  @Value.rec P (fun items => ∀ v ∈ items, P v) (fun members => ∀ m ∈ members, P m.2) (fun m => P m.2)
    hscalar harray hobject (fun _ h => absurd h List.not_mem_nil)
    (fun _ _ hv hvs => List.forall_mem_cons.mpr ⟨hv, hvs⟩) (fun _ h => absurd h List.not_mem_nil)
    (fun _ _ hm hms => List.forall_mem_cons.mpr ⟨hm, hms⟩) (fun _ _ hv => hv) v

mutual

/-- The tokens of a value. -/
def Value.tokens : Value → List Token
  | .scalar value => [.scalar value]
  | .array items => .opening .array :: [Token.comma].intercalate (itemTokens items) ++ [.closing .array]
  | .object members =>
    .opening .object :: [Token.comma].intercalate (memberTokens members) ++ [.closing .object]

/-- The tokens of the items of an array. -/
def itemTokens : List Value → List (List Token)
  | [] => []
  | item :: rest => item.tokens :: itemTokens rest

/-- The tokens of the members of an object. -/
def memberTokens : List (String × Value) → List (List Token)
  | [] => []
  | (key, value) :: rest => (.scalar (.text key) :: .colon :: value.tokens) :: memberTokens rest

end

/-- The text is a document of the value: it spells its tokens, with white space around them. -/
def Value.IsDocument (v : Value) (text : String) : Prop := Spaced v.tokens text.toList

/-- The draft of a member. -/
def draftOfMember (m : String × Value) : String × Draft := (m.1, m.2.draft)

/-- The tokens of a member. -/
def tokensOfMember (m : String × Value) : List Token := .scalar (.text m.1) :: .colon :: m.2.tokens

theorem itemTokens_eq_map (items : List Value) : itemTokens items = items.map Value.tokens := by
  induction items with
  | nil => rfl
  | cons item rest ih => rw [itemTokens, ih, List.map_cons]

theorem memberTokens_eq_map (members : List (String × Value)) :
    memberTokens members = members.map tokensOfMember := by
  induction members with
  | nil => rfl
  | cons m rest ih => rw [memberTokens, ih, List.map_cons, tokensOfMember]

theorem itemDrafts_eq_map (items : List Value) : itemDrafts items = items.map Value.draft := by
  induction items with
  | nil => rfl
  | cons item rest ih => rw [itemDrafts, ih, List.map_cons]

theorem memberDrafts_eq_map (members : List (String × Value)) :
    memberDrafts members = members.map draftOfMember := by
  induction members with
  | nil => rfl
  | cons m rest ih => rw [memberDrafts, ih, List.map_cons, draftOfMember]

/-! ## Tokens that can be told apart -/

/-- Whether a token stands for something that can be read. -/
def Token.isReadable : Token → Bool
  | .unreadable => false
  | _ => true

/-- The tokens can be read, and they can be told apart in a text. -/
structure Regular (ts : List Token) : Prop where
  separated : Separated ts
  readable : Token.unreadable ∉ ts

theorem Regular.nil : Regular [] := ⟨List.isChain_nil, List.not_mem_nil⟩

theorem Regular.single {t : Token} (h : t.isReadable = true) : Regular [t] := by
  refine ⟨List.isChain_singleton t, fun hmem => ?_⟩
  rw [← List.mem_singleton.mp hmem] at h
  exact Bool.false_ne_true h

/-- A token that is no scalar keeps apart what is on its sides. -/
theorem Regular.join {ts us : List Token} {t : Token} (hts : Regular ts) (hus : Regular us)
    (hscalar : t.isScalar = false) (hreadable : t.isReadable = true) : Regular (ts ++ t :: us) := by
  constructor
  · refine List.isChain_append.mpr ⟨hts.separated, List.isChain_cons.mpr ⟨?_, hus.separated⟩, ?_⟩
    · intro u _ ht
      rw [ht] at hscalar
      exact absurd hscalar.symm Bool.false_ne_true
    · rintro u - v hv -
      cases hv
      exact hscalar
  · intro hmem
    rcases List.mem_append.mp hmem with hleft | hright
    · exact hts.readable hleft
    · rcases List.mem_cons.mp hright with heq | htail
      · rw [← heq] at hreadable
        exact Bool.false_ne_true hreadable
      · exact hus.readable htail

theorem Regular.intercalate {pieces : List (List Token)} (h : ∀ p ∈ pieces, Regular p) :
    Regular ([Token.comma].intercalate pieces) := by
  induction pieces with
  | nil => exact .nil
  | cons first others ih =>
      obtain ⟨hfirst, hothers⟩ := List.forall_mem_cons.mp h
      cases others with
      | nil =>
          rw [List.intercalate_singleton]
          exact hfirst
      | cons second others =>
          rw [List.intercalate_cons_cons, List.append_assoc]
          exact hfirst.join (ih hothers) rfl rfl

/-- Brackets around regular tokens. -/
theorem Regular.enclosed {ts : List Token} (h : Regular ts) (bracket : Bracket) :
    Regular (.opening bracket :: ts ++ [.closing bracket]) := by
  have hopening : Regular (.opening bracket :: ts) :=
    Regular.nil.join h rfl rfl
  exact hopening.join .nil rfl rfl

/-- **The tokens of a value are regular.** -/
theorem regular_tokens (v : Value) : Regular v.tokens := by
  induction v using Value.induct with
  | hscalar value => exact .single rfl
  | harray items ih =>
      rw [Value.tokens, itemTokens_eq_map]
      exact (Regular.intercalate (List.forall_mem_map.mpr ih)).enclosed .array
  | hobject members ih =>
      rw [Value.tokens, memberTokens_eq_map]
      refine (Regular.intercalate (List.forall_mem_map.mpr fun m hm => ?_)).enclosed .object
      have hkey : Regular [.scalar (.text m.1)] := .single rfl
      exact hkey.join (ih m hm) rfl rfl

/-! ## Reading a value -/

/-- The first item of an array begins like any other value. -/
theorem run_firstItem (v : Value) (inside : List Slot) :
    v.tokens.foldl State.step (.reading .firstItem inside)
      = v.tokens.foldl State.step (.reading .value (.item [] :: inside)) := by
  cases v with
  | scalar value => rfl
  | array items => rfl
  | object members => rfl

/-- The items of an array after the first one. -/
theorem run_items {items : List Value}
    (h : ∀ v ∈ items, ∀ inside, v.tokens.foldl State.step (.reading .value inside) = .place v.draft inside)
    (before : List Draft) (inside : List Slot) :
    ((items.map Value.tokens).flatMap (Token.comma :: ·)).foldl State.step
        (.reading (.afterItem before) inside)
      = .reading (.afterItem ((items.map Value.draft).reverse ++ before)) inside := by
  induction items generalizing before with
  | nil => rfl
  | cons v rest ih =>
      obtain ⟨hv, hrest⟩ := List.forall_mem_cons.mp h
      have hcomma : (State.reading (.afterItem before) inside).step .comma
          = .reading .value (.item before :: inside) := rfl
      rw [List.map_cons, List.flatMap_cons, List.foldl_append, List.foldl_cons, hcomma, hv]
      show List.foldl State.step (.reading (.afterItem (v.draft :: before)) inside) _ = _
      rw [ih hrest, List.map_cons, List.reverse_cons, List.append_assoc, List.singleton_append]

/-- A member of an object, where its key is awaited. -/
theorem run_member {m : String × Value}
    (h : ∀ inside, m.2.tokens.foldl State.step (.reading .value inside) = .place m.2.draft inside)
    {awaited : Awaited} {before : List (String × Draft)} (inside : List Slot)
    (hkey : (State.reading awaited inside).step (.scalar (.text m.1))
      = .reading (.colon before m.1) inside) :
    (tokensOfMember m).foldl State.step (.reading awaited inside)
      = .reading (.afterMember (draftOfMember m :: before)) inside := by
  have hcolon : (State.reading (.colon before m.1) inside).step .colon
      = .reading .value (.member before m.1 :: inside) := rfl
  rw [tokensOfMember, List.foldl_cons, hkey, List.foldl_cons, hcolon, h]
  rfl

/-- The members of an object after the first one. -/
theorem run_members {members : List (String × Value)}
    (h : ∀ m ∈ members, ∀ inside,
      m.2.tokens.foldl State.step (.reading .value inside) = .place m.2.draft inside)
    (before : List (String × Draft)) (inside : List Slot) :
    ((members.map tokensOfMember).flatMap (Token.comma :: ·)).foldl State.step
        (.reading (.afterMember before) inside)
      = .reading (.afterMember ((members.map draftOfMember).reverse ++ before)) inside := by
  induction members generalizing before with
  | nil => rfl
  | cons m rest ih =>
      obtain ⟨hm, hrest⟩ := List.forall_mem_cons.mp h
      have hcomma : (State.reading (.afterMember before) inside).step .comma
          = .reading (.nextKey before) inside := rfl
      rw [List.map_cons, List.flatMap_cons, List.foldl_append, List.foldl_cons, hcomma,
        run_member hm inside rfl, ih hrest, List.map_cons, List.reverse_cons, List.append_assoc,
        List.singleton_append]

/-- The items of an array, and its end. -/
theorem run_array {items : List Value}
    (h : ∀ v ∈ items, ∀ inside, v.tokens.foldl State.step (.reading .value inside) = .place v.draft inside)
    (inside : List Slot) :
    ([Token.comma].intercalate (items.map Value.tokens) ++ [Token.closing .array]).foldl State.step
        (.reading .firstItem inside)
      = .place (.array (items.map Value.draft) true) inside := by
  cases items with
  | nil => rfl
  | cons first others =>
      obtain ⟨hfirst, hothers⟩ := List.forall_mem_cons.mp h
      rw [List.map_cons, intercalate_cons, List.foldl_append, List.foldl_append, run_firstItem, hfirst]
      show (List.foldl State.step (.reading (.afterItem [first.draft]) inside) _).step
        (.closing .array) = _
      rw [run_items hothers]
      show State.place (.array ((others.map Value.draft).reverse ++ [first.draft]).reverse true) inside = _
      rw [List.reverse_append, List.reverse_reverse, List.reverse_singleton, List.singleton_append,
        List.map_cons]

/-- The members of an object, and its end. -/
theorem run_object {members : List (String × Value)}
    (h : ∀ m ∈ members, ∀ inside,
      m.2.tokens.foldl State.step (.reading .value inside) = .place m.2.draft inside)
    (inside : List Slot) :
    ([Token.comma].intercalate (members.map tokensOfMember) ++ [Token.closing .object]).foldl State.step
        (.reading .firstKey inside)
      = .place (.object (members.map draftOfMember) true) inside := by
  cases members with
  | nil => rfl
  | cons first others =>
      obtain ⟨hfirst, hothers⟩ := List.forall_mem_cons.mp h
      rw [List.map_cons, intercalate_cons, List.foldl_append, List.foldl_append,
        run_member hfirst inside rfl, run_members hothers]
      show State.place (.object ((others.map draftOfMember).reverse
        ++ [draftOfMember first]).reverse true) inside = _
      rw [List.reverse_append, List.reverse_reverse, List.reverse_singleton, List.singleton_append,
        List.map_cons]

/-- **The tokens of a value are read to its draft**, which takes its place. -/
theorem run_tokens (v : Value) (inside : List Slot) :
    v.tokens.foldl State.step (.reading .value inside) = .place v.draft inside := by
  induction v using Value.induct generalizing inside with
  | hscalar value => rfl
  | harray items ih =>
      rw [Value.tokens, itemTokens_eq_map, Value.draft, itemDrafts_eq_map]
      exact run_array ih inside
  | hobject members ih =>
      rw [Value.tokens, memberTokens_eq_map, Value.draft, memberDrafts_eq_map]
      exact run_object ih inside

/-! ## What was read so far -/

/-- Which tokens lead to a place: they open all that is around it, and each array and object has the
values that come before. -/
def Opened : List Slot → List Token → Prop
  | [], ts => ts = []
  | .item before :: up, ts => ∃ pre, ∃ items : List Value, Opened up pre
      ∧ before = (items.map Value.draft).reverse
      ∧ ts = pre ++ .opening .array :: (items.map Value.tokens).flatMap (· ++ [.comma])
  | .member before key :: up, ts => ∃ pre, ∃ members : List (String × Value), Opened up pre
      ∧ before = (members.map draftOfMember).reverse
      ∧ ts = pre ++ .opening .object :: ((members.map tokensOfMember).flatMap (· ++ [.comma])
        ++ [.scalar (.text key), .colon])

/-- Which tokens of the innermost array or object lead to what is awaited. -/
def Awaited.Explains : Awaited → List Token → Prop
  | .value, ts => ts = []
  | .firstItem, ts => ts = [.opening .array]
  | .afterItem before, ts => ∃ (items : List Value) (v : Value),
      before = ((items ++ [v]).map Value.draft).reverse
      ∧ ts = .opening .array :: [Token.comma].intercalate ((items ++ [v]).map Value.tokens)
  | .firstKey, ts => ts = [.opening .object]
  | .nextKey before, ts => ∃ members : List (String × Value), before = (members.map draftOfMember).reverse
      ∧ ts = .opening .object :: (members.map tokensOfMember).flatMap (· ++ [.comma])
  | .colon before key, ts => ∃ members : List (String × Value), before = (members.map draftOfMember).reverse
      ∧ ts = .opening .object :: ((members.map tokensOfMember).flatMap (· ++ [.comma])
        ++ [.scalar (.text key)])
  | .afterMember before, ts => ∃ (members : List (String × Value)) (m : String × Value),
      before = ((members ++ [m]).map draftOfMember).reverse
      ∧ ts = .opening .object :: [Token.comma].intercalate ((members ++ [m]).map tokensOfMember)

/-- Which tokens lead to a state.  A text that is read to its end has the tokens of a value. -/
def State.Explains : State → List Token → Prop
  | .reading awaited inside, ts => ∃ pre own, ts = pre ++ own ∧ Opened inside pre ∧ awaited.Explains own
  | .finished root, ts => ∃ v : Value, root = v.draft ∧ ts = v.tokens
  | .stopped _, _ => True

theorem reverse_map_concat {α β : Type} (g : α → β) (xs : List α) (x : α) :
    ((xs ++ [x]).map g).reverse = g x :: (xs.map g).reverse := by
  rw [List.map_append, List.map_singleton, List.reverse_concat]

/-- A value that is complete is explained in its place. -/
theorem Explains.place {inside : List Slot} {pre : List Token} (h : Opened inside pre) (v : Value) :
    (State.place v.draft inside).Explains (pre ++ v.tokens) := by
  cases inside with
  | nil =>
      rw [show pre = [] from h]
      exact ⟨v, rfl, rfl⟩
  | cons slot up =>
      cases slot with
      | item before =>
          obtain ⟨outer, items, hup, rfl, rfl⟩ := h
          refine ⟨outer, _, ?_, hup, items, v, ?_, rfl⟩
          · rw [List.map_append, List.map_singleton, intercalate_concat, List.append_assoc,
              List.cons_append]
          · exact (reverse_map_concat Value.draft items v).symm
      | member before key =>
          obtain ⟨outer, members, hup, rfl, rfl⟩ := h
          refine ⟨outer, _, ?_, hup, members, (key, v), ?_, rfl⟩
          · rw [List.map_append, List.map_singleton, intercalate_concat, tokensOfMember,
              List.append_assoc, List.cons_append, List.append_assoc]
            rfl
          · exact (reverse_map_concat draftOfMember members (key, v)).symm

/-- The first token of a value. -/
theorem Explains.begin {inside : List Slot} {pre : List Token} (h : Opened inside pre) (t : Token) :
    (State.begin t inside).Explains (pre ++ [t]) := by
  unfold State.begin
  split
  · exact Explains.place h (.scalar _)
  · exact ⟨pre, _, rfl, h, rfl⟩
  · exact ⟨pre, _, rfl, h, rfl⟩
  · exact True.intro

/-- **One token**: what leads to a state and the token lead to the next state. -/
theorem Explains.step {s : State} {ts : List Token} (h : s.Explains ts) (t : Token) :
    (s.step t).Explains (ts ++ [t]) := by
  cases s with
  | finished root => exact True.intro
  | stopped root => exact True.intro
  | reading awaited inside =>
      obtain ⟨pre, own, rfl, hinside, hown⟩ := h
      show (State.receive t awaited inside).Explains _
      unfold State.receive
      split
      · -- A value begins.
        rw [show own = [] from hown, List.append_nil]
        exact Explains.begin hinside t
      · -- An empty array ends.
        rw [show own = [.opening .array] from hown, List.append_assoc]
        exact Explains.place hinside (.array [])
      · -- The first item of an array begins.
        have hopened : Opened (.item [] :: inside) (pre ++ own) := by
          rw [show own = [.opening .array] from hown]
          exact ⟨pre, [], hinside, rfl, rfl⟩
        exact Explains.begin hopened t
      · -- Another item is announced.
        obtain ⟨items, v, rfl, rfl⟩ := hown
        refine ⟨_, [], (List.append_nil _).symm, ⟨pre, items ++ [v], hinside, rfl, ?_⟩, rfl⟩
        rw [List.map_append, List.map_singleton, ← intercalate_concat_append, List.append_assoc,
          List.cons_append]
      · -- An array ends.
        obtain ⟨items, v, rfl, rfl⟩ := hown
        have hplace := Explains.place hinside (.array (items ++ [v]))
        rw [Value.draft, Value.tokens, itemDrafts_eq_map, itemTokens_eq_map] at hplace
        rw [List.reverse_reverse, List.append_assoc]
        exact hplace
      · -- An empty object ends.
        rw [show own = [.opening .object] from hown, List.append_assoc]
        exact Explains.place hinside (.object [])
      · -- The first key of an object.
        refine ⟨pre, _, List.append_assoc _ _ _, hinside, [], rfl, ?_⟩
        rw [show own = [.opening .object] from hown]
        rfl
      · -- Another key.
        obtain ⟨members, rfl, rfl⟩ := hown
        exact ⟨pre, _, List.append_assoc _ _ _, hinside, members, rfl, rfl⟩
      · -- The value of a member is announced.
        obtain ⟨members, rfl, rfl⟩ := hown
        refine ⟨_, [], (List.append_nil _).symm, ⟨pre, members, hinside, rfl, ?_⟩, rfl⟩
        rw [List.append_assoc, List.cons_append, List.append_assoc]
        rfl
      · -- Another member is announced.
        obtain ⟨members, m, rfl, rfl⟩ := hown
        refine ⟨pre, _, List.append_assoc _ _ _, hinside, members ++ [m], rfl, ?_⟩
        rw [List.map_append, List.map_singleton, ← intercalate_concat_append, List.cons_append]
      · -- An object ends.
        obtain ⟨members, m, rfl, rfl⟩ := hown
        have hplace := Explains.place hinside (.object (members ++ [m]))
        rw [Value.draft, Value.tokens, memberDrafts_eq_map, memberTokens_eq_map] at hplace
        rw [List.reverse_reverse, List.append_assoc]
        exact hplace
      · exact True.intro

/-- **All tokens**: what leads to a state and the tokens lead to the state in the end. -/
theorem Explains.run {s : State} {ts : List Token} (h : s.Explains ts) (us : List Token) :
    (us.foldl State.step s).Explains (ts ++ us) := by
  induction us generalizing s ts with
  | nil =>
      rw [List.append_nil]
      exact h
  | cons u us ih =>
      have hnext := ih (Explains.step h u)
      rw [List.append_assoc, List.singleton_append] at hnext
      exact hnext

/-! ## Reading a text -/

/-- **A text is read to its end exactly if it is a document of a value**, and then that value is read. -/
theorem read_eq_iff {text : String} {root : Draft} :
    read text = ⟨root, true⟩ ↔ ∃ v : Value, v.IsDocument text ∧ root = v.draft := by
  constructor
  · intro h
    have hstart : (State.reading .value []).Explains [] := ⟨[], [], rfl, rfl, rfl⟩
    have hend := Explains.run hstart (tokens text.toList)
    rw [read] at h
    cases hstate : (tokens text.toList).foldl State.step (.reading .value []) with
    | reading awaited inside =>
        rw [hstate] at h
        exact absurd (congrArg Reading.isWhole h) Bool.false_ne_true
    | stopped root =>
        rw [hstate] at h
        exact absurd (congrArg Reading.isWhole h) Bool.false_ne_true
    | finished result =>
        rw [hstate] at h hend
        obtain ⟨v, rfl, htokens⟩ := hend
        rw [List.nil_append] at htokens
        refine ⟨v, ?_, (congrArg Reading.root h).symm⟩
        rw [Value.IsDocument, ← htokens]
        apply spaced_tokens
        rw [htokens]
        exact (regular_tokens v).readable
  · rintro ⟨v, hdocument, rfl⟩
    rw [read, tokens_of_spaced hdocument (regular_tokens v).separated, run_tokens]
    rfl

end EntityAudit.Json
