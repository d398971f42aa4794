import EntityAudit.Fingerprint.Basic

/-!
# `EntityAudit.Proofs.Fingerprint.Stripes` — the hash of a longer input, read from its front

The hash addresses bytes by their places. Read from the front, stripe after stripe, the same words are
found at the beginning of what remains, and no place is searched for again; in this form the hash of a
text of a thousand bytes can be evaluated in a proof.

## Contents

* `listWord`, `word_eq_listWord` — a word at the front of a list
* `listStripe`, `listStripes` — stripes at the front of a list
* `hash_eq_listHash` — the hash of 241 to 1024 bytes
-/

namespace EntityAudit.Xxh3

/-! ## Words -/

/-- The little-endian number that the first `width` bytes of a list spell, zeros after its end. -/
def listWord : List UInt8 → (width : Nat) → UInt64
  | _, 0 => 0
  | [], _ + 1 => 0
  | b :: rest, width + 1 => b.toUInt64 ||| (listWord rest width <<< 8)

theorem listWord_nil (width : Nat) : listWord [] width = 0 := by
  cases width <;> rfl

/-- The word at a place is the word at the front of what follows the place. -/
theorem word_eq_listWord (bytes : List UInt8) (i width : Nat) :
    word ⟨⟨bytes⟩⟩ i width = listWord (bytes.drop i) width := by
  induction width generalizing i with
  | zero => cases bytes.drop i <;> rfl
  | succ width ih =>
      rw [word, ih (i + 1)]
      by_cases h : i < bytes.length
      · have hbyte : byteAt ⟨⟨bytes⟩⟩ i = bytes[i].toUInt64 := dif_pos h
        rw [hbyte, List.drop_eq_getElem_cons h, listWord]
      · have hbyte : byteAt ⟨⟨bytes⟩⟩ i = 0 := dif_neg h
        rw [hbyte, List.drop_eq_nil_of_le (by omega), List.drop_eq_nil_of_le (by omega), listWord_nil,
          listWord_nil]
        rfl

/-! ## Stripes -/

/-- The bytes of the secret. -/
def key : List UInt8 := secret.data.toList

/-- Takes in the stripe at the front of `bytes`, with the secret at the front of `key`. -/
def listStripe (bytes key : List UInt8) (lanes : List UInt64) : List UInt64 :=
  lanes.zipIdx.map fun (lane, j) =>
    let keyed : UInt64 := listWord (bytes.drop (8 * j)) 8 ^^^ listWord (key.drop (8 * j)) 8
    let neighbour : UInt64 := listWord (bytes.drop (8 * (if j % 2 = 0 then j + 1 else j - 1))) 8
    lane + neighbour + (keyed &&& (0xFFFFFFFF : UInt64)) * (keyed >>> 32)

theorem addStripe_eq_listStripe (bytes : List UInt8) (i k : Nat) (lanes : List UInt64) :
    addStripe ⟨⟨bytes⟩⟩ i k lanes = listStripe (bytes.drop i) (key.drop k) lanes := by
  have hsecret : secret = ⟨⟨key⟩⟩ := rfl
  unfold addStripe listStripe
  refine List.map_congr_left fun ⟨lane, j⟩ _ => ?_
  simp only [word64, hsecret, word_eq_listWord, List.drop_drop]

/-- Takes in stripes from the front of `bytes`, the secret moving on by eight bytes each time. -/
def listStripes : (count : Nat) → (bytes key : List UInt8) → List UInt64 → List UInt64
  | 0, _, _, lanes => lanes
  | count + 1, bytes, key, lanes =>
    listStripes count (bytes.drop 64) (key.drop 8) (listStripe bytes key lanes)

theorem addStripes_eq_listStripes (bytes : List UInt8) (i count : Nat) (lanes : List UInt64) :
    addStripes ⟨⟨bytes⟩⟩ i count lanes = listStripes count (bytes.drop i) key lanes := by
  -- The secret moves on from stripe to stripe, so its place is generalized with that of the bytes.
  have moving (i k : Nat) : (List.range count).foldl
      (fun acc s => addStripe ⟨⟨bytes⟩⟩ (i + 64 * s) (k + 8 * s) acc) lanes
        = listStripes count (bytes.drop i) (key.drop k) lanes := by
    induction count generalizing i k lanes with
    | zero => rfl
    | succ count ih =>
        have hbytes (s : Nat) : i + 64 * (s + 1) = i + 64 + 64 * s := by omega
        have hkey (s : Nat) : k + 8 * (s + 1) = k + 8 + 8 * s := by omega
        rw [List.range_succ_eq_map, List.foldl_cons, List.foldl_map]
        simp only [Nat.succ_eq_add_one, hbytes, hkey]
        rw [ih, addStripe_eq_listStripe, listStripes, List.drop_drop, List.drop_drop]
        rfl
  have := moving i 0
  simpa only [addStripes, Nat.zero_add, List.drop_zero] using this

/-! ## The hash -/

/-- The hash of 241 to 1024 bytes, read from their front. -/
def listHash (bytes : List UInt8) : UInt64 :=
  mergeLanes (UInt64.ofNat bytes.length * prime64x1)
    (listStripe (bytes.drop (bytes.length - 64)) (key.drop 121)
      (listStripes ((bytes.length - 1) / 64) bytes key initialLanes))

/-- Up to 1024 bytes there is no full block, so that the stripes follow each other without a break. -/
theorem hash_eq_listHash {bytes : List UInt8} (hlow : 240 < bytes.length)
    (hhigh : bytes.length ≤ 1024) : hash ⟨⟨bytes⟩⟩ = listHash bytes := by
  have hsize : (⟨⟨bytes⟩⟩ : ByteArray).size = bytes.length := rfl
  have hblocks : (bytes.length - 1) / 1024 = 0 := by omega
  rw [hash, hsize, if_neg (by omega), if_neg (by omega), hashLong, hsize, hblocks]
  simp only [Nat.mul_zero, Nat.sub_zero, List.range_zero, List.foldl_nil, addStripe_eq_listStripe,
    addStripes_eq_listStripes, List.drop_zero]
  rfl

end EntityAudit.Xxh3
