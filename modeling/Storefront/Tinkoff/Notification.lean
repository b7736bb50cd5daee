import Storefront.Library.KeyedText
import Storefront.Order.Notification

/-!
# Signed notifications

`PaymentStatusNotification` (`integrations/tinkoff/models.py`): how a notification is read from
the JSON object of a request, and how its token is checked. The token is the hash of the texts
of the dumped fields and of the password, joined in the order of their keys.

What lies outside is passed in: the digest behind `hash_string` (`HexDigest`), the password of
the settings, and what pydantic makes of a JSON value in a field that is not a text
(`Coercions`).

* `generateToken_modelDump` — the text that is hashed is that of the nine declared fields and
  the password, one after the other without separators;
* `verifies_signature_iff` — a notification verifies exactly when its `Token` is the
  signature of all the scalar members of the object, if and only if the members that are not
  declared make no difference to the hash, or the token is neither of the two hashes;
* `verified_fields` — what two notifications with the same token have in common.
-/

namespace Storefront

/-! ### Digests -/

/-- The text has ASCII characters only. -/
def IsAscii (s : String) : Prop := ∀ c ∈ s.toList, c.toNat < 128

instance (s : String) : Decidable (IsAscii s) :=
  inferInstanceAs (Decidable (∀ c ∈ s.toList, c.toNat < 128))

/-- `hash_string`: the digest of a text, written in hexadecimal digits. Which digest it is
makes no difference here. -/
structure HexDigest where
  hashString : String → String
  ascii : ∀ s, IsAscii (hashString s)

/-- `hmac.compare_digest`, which takes texts of ASCII characters only. -/
def compareDigest (a : Option String) (b : String) : Except PyExc Bool :=
  match a with
  | some a => if IsAscii a ∧ IsAscii b then .ok (a = b) else .error .typeError
  | none => .error .typeError

/-- The code points of a text, six hexadecimal digits each. -/
def codePoints (s : String) : String :=
  String.ofList (s.toList.flatMap fun c => hexDigits 6 c.toNat)

/-- Blocks of six digits are told apart. -/
theorem codePoints_injective : Function.Injective codePoints := by
  have hlist : ∀ l l' : List Char, l.flatMap (fun c => hexDigits 6 c.toNat) =
      l'.flatMap (fun c => hexDigits 6 c.toNat) → l = l' := by
    -- a block is not empty
    have hne : ∀ (c : Char) (l : List Char),
        [] ≠ (c :: l).flatMap fun c => hexDigits 6 c.toNat := by
      intro c l h
      have hlen := congrArg List.length h
      rw [List.flatMap_cons, List.length_append, length_hexDigits, List.length_nil] at hlen
      omega
    -- and a code point is below `16 ^ 6`
    have hlt : ∀ c : Char, c.toNat < 16 ^ 6 := fun c => by
      have hvalid : c.toNat < 0xd800 ∨ 0xdfff < c.toNat ∧ c.toNat < 0x110000 := c.valid
      omega
    intro l
    induction l with
    | nil =>
      rintro (_ | ⟨c, l'⟩) h
      · rfl
      · exact absurd h (hne c l')
    | cons c l ih =>
      rintro (_ | ⟨c', l'⟩) h
      · exact absurd h.symm (hne c l)
      · rw [List.flatMap_cons, List.flatMap_cons] at h
        obtain ⟨hhead, htail⟩ := List.append_inj h (by simp)
        have hread := congrArg ofHexDigits hhead
        rw [ofHexDigits_hexDigits (hlt c), ofHexDigits_hexDigits (hlt c')] at hread
        rw [Char.toNat_inj.mp (Option.some.inj hread), ih l' htail]
  intro s s' h
  exact String.toList_inj.mp (hlist _ _ (String.ofList_injective h))

/-- The code points as a digest, one without collisions. -/
def codePointDigest : HexDigest where
  hashString := codePoints
  ascii s c hc := by
    have hdigit : ∀ d < 16, (Nat.digitChar d).toNat < 128 := by decide
    rw [codePoints, String.toList_ofList] at hc
    obtain ⟨c', -, hc'⟩ := List.mem_flatMap.mp hc
    obtain ⟨i, -, rfl⟩ := List.mem_map.mp hc'
    exact hdigit _ (Nat.mod_lt _ (by decide))

/-! ### JSON objects -/

/-- A JSON value. A number that is not an integer is kept as it is written; what an array or
an object holds is never read. -/
inductive Json
  | null
  | bool (b : Bool)
  | int (n : Int)
  | float (text : String)
  | str (s : String)
  | nested
  deriving DecidableEq, Repr

/-- `str(value).lower()` -/
def lowered (b : Bool) : String := if b then "true" else "false"

/-- The text of a scalar; `null` has none. -/
def Json.text : Json → Option String
  | .bool b => some (lowered b)
  | .int n => some (toString n)
  | .float text => some text
  | .str s => some s
  | .null | .nested => none

namespace Tinkoff

/-! ### The model and its dump -/

/-- All fields of a notification. -/
structure PaymentStatusNotification extends Storefront.PaymentStatusNotification where
  token : Option String
  amount : Int
  cardId : Int
  errorCode : String
  expDate : String
  pan : String
  success : Bool
  deriving DecidableEq, Repr

/-- A value of a dump. -/
inductive Value
  | int (n : Int)
  | str (s : String)
  | uuid (u : UUID)
  | bool (b : Bool)
  | nested
  deriving DecidableEq, Repr

/-- `str(value).lower() if isinstance(value, bool) else str(value)`, for a value that is not a
dictionary or a list. -/
def Value.text : Value → Option String
  | .int n => some (toString n)
  | .str s => some s
  | .uuid u => some u.str
  | .bool b => some (lowered b)
  | .nested => none

namespace PaymentStatusNotification

/-- `model_dump(exclude={'token'}, exclude_none=True, by_alias=True)`. The property
`terminal_key` wraps a `computed_field` and so is not registered as one. -/
def modelDump (n : PaymentStatusNotification) : List (String × Value) :=
  [("Amount", .int n.amount), ("CardId", .int n.cardId), ("ErrorCode", .str n.errorCode),
    ("ExpDate", .str n.expDate), ("OrderId", .uuid n.invoiceId), ("Pan", .str n.pan),
    ("PaymentId", .int n.paymentId), ("Status", .str n.status), ("Success", .bool n.success)]

/-- The declared fields under their aliases, as texts. -/
def members (n : PaymentStatusNotification) : List (String × String) :=
  [("Amount", toString n.amount), ("CardId", toString n.cardId), ("ErrorCode", n.errorCode),
    ("ExpDate", n.expDate), ("OrderId", n.invoiceId.str), ("Pan", n.pan),
    ("PaymentId", toString n.paymentId), ("Status", n.status), ("Success", lowered n.success)]

end PaymentStatusNotification

/-! ### The token -/

/-- `token_data`, with the password put in last. -/
def tokenData (password : String) (data : List (String × Value)) : Dict String String :=
  Dict.ofList ((data.filterMap fun p => p.2.text.map fun text => (p.1, text)) ++
    [("Password", password)])

/-- `BasePaymentModel.generate_token`, from the dump of the model. -/
def generateToken (hash : HexDigest) (password : String) (data : List (String × Value)) :
    String :=
  hash.hashString (joinByKey (tokenData password data).rows)

namespace PaymentStatusNotification

/-- `verify` -/
def verify (hash : HexDigest) (password : String) (n : PaymentStatusNotification) :
    Except PyExc Bool :=
  compareDigest n.token (generateToken hash password n.modelDump)

/-- The text that is hashed: the nine fields and the password, in the order of the aliases. -/
def tokenText (password : String) (n : PaymentStatusNotification) : String :=
  joinByKey (n.members ++ [("Password", password)])

variable (hash : HexDigest) (password : String) (n : PaymentStatusNotification)

theorem nodup_members : ((n.members ++ [("Password", password)]).map Prod.fst).Nodup := by
  show ["Amount", "CardId", "ErrorCode", "ExpDate", "OrderId", "Pan", "PaymentId", "Status",
    "Success", "Password"].Nodup
  decide

theorem generateToken_modelDump :
    generateToken hash password n.modelDump = hash.hashString (n.tokenText password) := by
  unfold generateToken tokenData tokenText
  rw [show (n.modelDump.filterMap fun p => p.2.text.map fun text => (p.1, text)) = n.members from
    rfl, Dict.rows_ofList (nodup_members password n)]

/-- The password stands between the fields `Pan` and `PaymentId`. -/
theorem tokenText_eq : n.tokenText password = String.join
    [toString n.amount, toString n.cardId, n.errorCode, n.expDate, n.invoiceId.str, n.pan,
      password, toString n.paymentId, n.status, lowered n.success] := by
  have hsorted : joinByKey (n.members ++ [("Password", password)]) =
      joinByKey (n.members.take 6 ++ ("Password", password) :: n.members.drop 6) :=
    joinByKey_perm (nodup_members password n) (by
      show (n.members.take 6 ++ (n.members.drop 6 ++ [_])).Perm _
      exact (List.perm_append_singleton _ _).append_left _)
  unfold tokenText
  rw [hsorted, joinByKey_of_pairwise]
  · rfl
  · -- the aliases are in the order of their code points
    have hkeys : (["Amount", "CardId", "ErrorCode", "ExpDate", "OrderId", "Pan", "Password",
        "PaymentId", "Status", "Success"] : List String).Pairwise (· ≤ ·) := by decide
    exact (List.pairwise_map (f := Prod.fst)).mp hkeys

/-- When a notification verifies. -/
theorem verify_eq_ok {answer : Bool} :
    n.verify hash password = .ok answer ↔
      ∃ token, n.token = some token ∧ IsAscii token ∧
        answer = decide (token = hash.hashString (n.tokenText password)) := by
  unfold verify compareDigest
  rw [generateToken_modelDump]
  cases n.token with
  | none => simp
  | some token =>
    by_cases htoken : IsAscii token
    · simp [htoken, hash.ascii, eq_comm]
    · simp [htoken]

end PaymentStatusNotification

/-! ### Reading a notification -/

/-- What pydantic makes of a JSON value in a field that is not a text. -/
structure Coercions where
  int : Json → Except PyExc Int
  uuid : Json → Except PyExc UUID
  bool : Json → Except PyExc Bool

/-- A member, under its alias or else under the name of the field. -/
def member (J : Dict String Json) (aliasKey name : String) : Option Json :=
  (J.get? aliasKey).or (J.get? name)

/-- A field without a default. -/
def required {α : Type} (read : Json → Except PyExc α) : Option Json → Except PyExc α
  | some value => read value
  | none => .error .validationError

/-- A field of type `str`. -/
def readStr : Json → Except PyExc String
  | .str s => .ok s
  | _ => .error .validationError

/-- `token: str | None = None` -/
def readToken : Option Json → Except PyExc (Option String)
  | some (.str s) => .ok (some s)
  | some .null | none => .ok none
  | some _ => .error .validationError

/-- `PaymentStatusNotification.model_validate` -/
def modelValidate (C : Coercions) (J : Dict String Json) :
    Except PyExc PaymentStatusNotification := do
  let token ← readToken (member J "Token" "token")
  let amount ← required C.int (member J "Amount" "amount")
  let cardId ← required C.int (member J "CardId" "card_id")
  let errorCode ← required readStr (member J "ErrorCode" "error_code")
  let expDate ← required readStr (member J "ExpDate" "exp_date")
  let invoiceId ← required C.uuid (member J "OrderId" "invoice_id")
  let pan ← required readStr (member J "Pan" "pan")
  let paymentId ← required C.int (member J "PaymentId" "payment_id")
  let status ← required readStr (member J "Status" "status")
  let success ← required C.bool (member J "Success" "success")
  return { token, amount, cardId, errorCode, expDate, invoiceId, pan, paymentId, status, success }

theorem token_modelValidate {C : Coercions} {J : Dict String Json} {n : PaymentStatusNotification}
    (h : modelValidate C J = .ok n) : readToken (member J "Token" "token") = .ok n.token := by
  unfold modelValidate at h
  simp only [except_bind_eq_ok, pure, Except.pure, Except.ok.injEq] at h
  obtain ⟨token, htoken, -, -, -, -, -, -, -, -, -, -, -, -, -, -, -, -, -, -, rfl⟩ := h
  exact htoken

theorem readToken_eq_ok {value : Option Json} {t : Option String} (h : readToken value = .ok t)
    (token : String) : t = some token ↔ value = some (.str token) := by
  rcases value with _ | _ | _ | _ | _ | s | _ <;> cases h <;> simp

/-- The token of a notification is the text under `Token`, or else under `token`. -/
theorem token_eq_some {C : Coercions} {J : Dict String Json} {n : PaymentStatusNotification}
    (h : modelValidate C J = .ok n) {token : String} :
    n.token = some token ↔ J.get? "Token" = some (.str token) ∨
      (J.get? "Token" = none ∧ J.get? "token" = some (.str token)) := by
  rw [readToken_eq_ok (token_modelValidate h)]
  exact Option.or_eq_some_iff

/-! ### The signature -/

/-- The scalar members of an object except `Token`, and the password as `Password`. -/
def signedMembers (password : String) (J : Dict String Json) : List (String × String) :=
  (J.rows.filterMap fun p =>
    if p.1 = "Token" ∨ p.1 = "Password" then none else p.2.text.map fun text => (p.1, text)) ++
    [("Password", password)]

/-- The token that the sender of an object puts into it: the hash of the texts of all scalar
members and the password, joined in the order of their keys. -/
def signature (hash : HexDigest) (password : String) (J : Dict String Json) : String :=
  hash.hashString (joinByKey (signedMembers password J))

/-- `verify` returns, and returns `True` exactly when the member `Token` is the signature. -/
def VerifiesSignature (hash : HexDigest) (password : String) (J : Dict String Json)
    (n : PaymentStatusNotification) : Prop :=
  ∃ answer, n.verify hash password = .ok answer ∧
    (answer = true ↔ J.get? "Token" = some (.str (signature hash password J)))

/-- There is a token of ASCII characters. If it is the member `Token`, then what is signed and
what is declared have the same hash, or the token is neither of the two; if it is given under
the name of the field, it is not the hash of what is declared. -/
def TokenDecides (hash : HexDigest) (password : String) (J : Dict String Json)
    (n : PaymentStatusNotification) : Prop :=
  ∃ token, IsAscii token ∧
    ((J.get? "Token" = some (.str token) ∧
      (signature hash password J = hash.hashString (n.tokenText password) ∨
        (token ≠ signature hash password J ∧ token ≠ hash.hashString (n.tokenText password)))) ∨
    (J.get? "Token" = none ∧ J.get? "token" = some (.str token) ∧
      token ≠ hash.hashString (n.tokenText password)))

/-- Every declared field is there under its alias, with the text that it has in the model. -/
def Canonical (J : Dict String Json) (n : PaymentStatusNotification) : Prop :=
  ∀ p ∈ n.members, ∃ value, J.get? p.1 = some value ∧ value.text = some p.2

/-- The members that are neither declared nor the token or the password. -/
def furtherMembers (J : Dict String Json) (n : PaymentStatusNotification) : List (String × Json) :=
  J.rows.filter fun p => p.1 ∉ "Token" :: "Password" :: n.members.map Prod.fst

section Signature

variable {C : Coercions} {J : Dict String Json} {n : PaymentStatusNotification}

theorem mem_signedMembers {password : String} {p : String × String} :
    p ∈ signedMembers password J ↔
      (p.1 ≠ "Token" ∧ p.1 ≠ "Password" ∧
        ∃ value, J.get? p.1 = some value ∧ value.text = some p.2) ∨
      p = ("Password", password) := by
  obtain ⟨key, text⟩ := p
  unfold signedMembers
  rw [List.mem_append, List.mem_singleton, List.mem_filterMap]
  refine or_congr_left ⟨?_, ?_⟩
  · rintro ⟨⟨key', value⟩, hmem, heq⟩
    split at heq
    · cases heq
    · -- objects and lists have no text, so they are not signed
      next hkey =>
      obtain ⟨text', htext, hpair⟩ := Option.map_eq_some_iff.mp heq
      cases hpair
      exact ⟨fun h => hkey (.inl h), fun h => hkey (.inr h), value, Dict.get?_eq_some.mpr hmem,
        htext⟩
  · rintro ⟨htoken, hpassword, value, hget, htext⟩
    refine ⟨(key, value), Dict.get?_eq_some.mp hget, ?_⟩
    rw [if_neg (by rintro (h | h); exacts [htoken h, hpassword h]), htext]
    rfl

theorem nodup_signedMembers (password : String) (J : Dict String Json) :
    ((signedMembers password J).map Prod.fst).Nodup := by
  unfold signedMembers
  rw [List.map_append, List.nodup_append]
  refine ⟨?_, List.nodup_singleton _, ?_⟩
  -- the members keep the keys of the object
  · refine List.pairwise_map.mpr ((List.pairwise_map.mp J.nodup).filterMap _ ?_)
    rintro ⟨key, value⟩ ⟨key', value'⟩ hne p hp p' hp'
    split at hp
    · cases hp
    · split at hp'
      · cases hp'
      · obtain ⟨text, -, rfl⟩ := Option.map_eq_some_iff.mp hp
        obtain ⟨text', -, rfl⟩ := Option.map_eq_some_iff.mp hp'
        exact hne
  -- and none of them is the password
  · rintro key hkey key' hkey' rfl
    obtain ⟨p, hp, rfl⟩ := List.mem_map.mp hkey
    obtain ⟨⟨key, value⟩, -, hvalue⟩ := List.mem_filterMap.mp hp
    split at hvalue
    · cases hvalue
    · next hnot =>
      obtain ⟨text, -, rfl⟩ := Option.map_eq_some_iff.mp hvalue
      exact hnot (.inr (List.mem_singleton.mp hkey'))

/-- The keys of the declared fields are neither of the two that are treated apart. -/
theorem ne_of_mem_members {p : String × String} (h : p ∈ n.members) :
    p.1 ≠ "Token" ∧ p.1 ≠ "Password" := by
  have hkeys : ∀ key ∈ n.members.map Prod.fst, key ≠ "Token" ∧ key ≠ "Password" := by
    show ∀ key ∈ ["Amount", "CardId", "ErrorCode", "ExpDate", "OrderId", "Pan", "PaymentId",
      "Status", "Success"], key ≠ "Token" ∧ key ≠ "Password"
    decide
  exact hkeys p.1 (List.mem_map_of_mem h)

/-- Of what is signed, the declared part is what the model hashes. -/
theorem perm_filter_signedMembers (h : Canonical J n) (password : String) :
    ((signedMembers password J).filter fun p =>
      p.1 ∈ "Password" :: n.members.map Prod.fst).Perm (n.members ++ [("Password", password)]) := by
  refine (List.perm_ext_iff_of_nodup ((nodup_signedMembers password J).of_map.filter _)
    (PaymentStatusNotification.nodup_members password n).of_map).mpr fun p => ?_
  rw [List.mem_filter, mem_signedMembers, List.mem_append, List.mem_singleton,
    decide_eq_true_iff, List.mem_cons]
  refine ⟨?_, ?_⟩
  · rintro ⟨⟨-, hpassword, value, hget, htext⟩ | rfl, hkey⟩
    · obtain ⟨q, hq, hqp⟩ := List.mem_map.mp (hkey.resolve_left hpassword)
      -- the member of that key has the text of the field
      obtain ⟨value', hget', htext'⟩ := h q hq
      rw [hqp, hget] at hget'
      cases hget'
      have hp : q = p := Prod.ext hqp (Option.some.inj (htext'.symm.trans htext))
      exact .inl (hp ▸ hq)
    · exact .inr rfl
  · rintro (hp | rfl)
    · obtain ⟨value, hget, htext⟩ := h p hp
      exact ⟨.inl ⟨(ne_of_mem_members hp).1, (ne_of_mem_members hp).2, value, hget, htext⟩,
        .inr (List.mem_map_of_mem hp)⟩
    · exact ⟨.inr rfl, .inl rfl⟩

/-- **What is signed is what is declared** exactly when no further member has a text. -/
theorem joinByKey_signedMembers_iff (h : Canonical J n) (password : String) :
    joinByKey (signedMembers password J) = n.tokenText password ↔
      ∀ p ∈ furtherMembers J n, ∀ text ∈ p.2.text, text = "" := by
  unfold PaymentStatusNotification.tokenText
  rw [← joinByKey_perm
      (((nodup_signedMembers password J).sublist (List.filter_sublist.map _)))
      (perm_filter_signedMembers h password),
    joinByKey_eq_filter_iff (nodup_signedMembers password J)]
  refine ⟨?_, ?_⟩
  · -- a further member is signed as well, so it must not add to the text
    rintro hempty ⟨key, value⟩ hp text htext
    obtain ⟨hmem, hkey⟩ := List.mem_filter.mp hp
    simp only [List.mem_cons, not_or, decide_eq_true_iff] at hkey
    refine hempty (key, text) (mem_signedMembers.mpr (.inl ⟨hkey.1, hkey.2.1, value,
      Dict.get?_eq_some.mpr hmem, htext⟩)) ?_
    exact decide_eq_false (by simp only [List.mem_cons, not_or]; exact hkey.2)
  · intro hempty p hp hkey
    have hkey := of_decide_eq_false hkey
    rw [List.mem_cons, not_or] at hkey
    rcases mem_signedMembers.mp hp with ⟨htoken, hpassword, value, hget, htext⟩ | rfl
    · refine hempty (p.1, value) (List.mem_filter.mpr ⟨Dict.get?_eq_some.mp hget, ?_⟩) p.2 htext
      exact decide_eq_true (by simp only [List.mem_cons, not_or]; exact ⟨htoken, hkey⟩)
    · exact absurd rfl hkey.1

/-- **When verification is the comparison with the signature**: when the token decides. For an
object whose declared members are in their canonical form, what is signed is what the model
hashes exactly when all further scalar members are empty texts. -/
theorem verifies_signature_iff (hash : HexDigest) (password : String)
    (h : modelValidate C J = .ok n) :
    (VerifiesSignature hash password J n ↔ TokenDecides hash password J n) ∧
      (Canonical J n → (joinByKey (signedMembers password J) = n.tokenText password ↔
        ∀ p ∈ furtherMembers J n, ∀ text ∈ p.2.text, text = "")) := by
  refine ⟨⟨?_, ?_⟩, fun hJ => joinByKey_signedMembers_iff hJ password⟩
  · rintro ⟨answer, hverify, hiff⟩
    obtain ⟨token, htoken, hascii, rfl⟩ := (n.verify_eq_ok hash password).mp hverify
    rw [decide_eq_true_iff] at hiff
    refine ⟨token, hascii, ?_⟩
    rcases (token_eq_some h).mp htoken with halias | ⟨hnone, hname⟩
    -- the two comparisons have the same outcome
    · rw [halias, Option.some.injEq, Json.str.injEq] at hiff
      refine .inl ⟨halias, ?_⟩
      by_cases hdeclared : token = hash.hashString (n.tokenText password)
      · exact .inl ((hiff.mp hdeclared).symm.trans hdeclared)
      · exact .inr ⟨fun hsigned => hdeclared (hiff.mpr hsigned), hdeclared⟩
    · refine .inr ⟨hnone, hname, fun hdeclared => ?_⟩
      have hsigned := hiff.mp hdeclared
      rw [hnone] at hsigned
      cases hsigned
  · -- conversely, the digest is compared with the token that was read
    rintro ⟨token, hascii, hcase⟩
    have htoken : n.token = some token :=
      (token_eq_some h).mpr (hcase.imp And.left fun hcase => ⟨hcase.1, hcase.2.1⟩)
    refine ⟨_, (n.verify_eq_ok hash password).mpr ⟨token, htoken, hascii, rfl⟩, ?_⟩
    rw [decide_eq_true_iff]
    rcases hcase with ⟨halias, hcase⟩ | ⟨hnone, -, hdeclared⟩
    · rw [halias, Option.some.injEq, Json.str.injEq]
      rcases hcase with heq | ⟨hsigned, hdeclared⟩
      · rw [heq]
      · exact iff_of_false hdeclared hsigned
    · rw [hnone]
      exact iff_of_false hdeclared nofun

end Signature

/-- Integers, texts of UUIDs and booleans in the fields of their own types only. -/
def Coercions.strict : Coercions where
  int
    | .int n => .ok n
    | _ => .error .validationError
  uuid
    | .str s => (UUID.ofStr? s).elim (.error .validationError) .ok
    | _ => .error .validationError
  bool
    | .bool b => .ok b
    | _ => .error .validationError

/-- A confirmed payment of 100 roubles, with the given token. -/
def sampleNotification (token : Option String) : PaymentStatusNotification where
  invoiceId := 13
  paymentId := 7
  status := "CONFIRMED"
  token := token
  amount := 10000
  cardId := 1
  errorCode := "0"
  expDate := "1230"
  pan := "430000******0777"
  success := true

/-- The members of its object, and that object with other members before them. -/
def sampleMembers : List (String × Json) :=
  [("Amount", .int 10000), ("CardId", .int 1), ("ErrorCode", .str "0"), ("ExpDate", .str "1230"),
    ("OrderId", .str (UUID.str 13)), ("Pan", .str "430000******0777"), ("PaymentId", .int 7),
    ("Status", .str "CONFIRMED"), ("Success", .bool true)]

def sampleObject (others : List (String × Json)) : Dict String Json :=
  Dict.ofList (others ++ sampleMembers)

section Sample

variable {others : List (String × Json)} (h_keys : ((others ++ sampleMembers).map Prod.fst).Nodup)

include h_keys

theorem get?_sampleObject {p : String × Json} (h : p ∈ sampleMembers) :
    (sampleObject others).get? p.1 = some p.2 :=
  (Dict.get?_ofList h_keys).mpr (List.mem_append_right _ h)

theorem modelValidate_sampleObject {token : Option String}
    (h : readToken (member (sampleObject others) "Token" "token") = .ok token) :
    modelValidate .strict (sampleObject others) = .ok (sampleNotification token) := by
  have hmember : ∀ p ∈ sampleMembers, ∀ name, member (sampleObject others) p.1 name = some p.2 := by
    intro p hp name
    unfold member
    rw [get?_sampleObject h_keys hp]
    rfl
  simp only [sampleMembers, List.forall_mem_cons] at hmember
  obtain ⟨hamount, hcard, herror, hexp, horder, hpan, hpayment, hstatus, hsuccess, -⟩ := hmember
  unfold modelValidate
  simp only [h, hamount, hcard, herror, hexp, horder, hpan, hpayment, hstatus, hsuccess, required,
    readStr, Coercions.strict, UUID.ofStr?_str]
  rfl

theorem canonical_sampleObject (token : Option String) :
    Canonical (sampleObject others) (sampleNotification token) := by
  intro p hp
  have hmembers : (sampleNotification token).members =
      sampleMembers.filterMap fun q => q.2.text.map fun text => (q.1, text) := rfl
  rw [hmembers] at hp
  obtain ⟨q, hq, hpair⟩ := List.mem_filterMap.mp hp
  obtain ⟨text, htext, rfl⟩ := Option.map_eq_some_iff.mp hpair
  exact ⟨q.2, get?_sampleObject h_keys hq, htext⟩

/-- Its further members are those of the others that are not treated apart. -/
theorem mem_furtherMembers_sampleObject {token : Option String} {p : String × Json} :
    p ∈ furtherMembers (sampleObject others) (sampleNotification token) ↔
      p ∈ others ∧ p.1 ≠ "Token" ∧ p.1 ≠ "Password" := by
  have hmembers : (sampleNotification token).members.map Prod.fst = sampleMembers.map Prod.fst :=
    rfl
  unfold furtherMembers sampleObject
  rw [Dict.rows_ofList h_keys, List.mem_filter, decide_eq_true_iff, List.mem_cons, List.mem_cons,
    not_or, not_or, hmembers, List.mem_append]
  refine ⟨?_, ?_⟩
  · rintro ⟨hp, htoken, hpassword, hkey⟩
    exact ⟨hp.resolve_right fun h => hkey (List.mem_map_of_mem h), htoken, hpassword⟩
  · rintro ⟨hp, htoken, hpassword⟩
    refine ⟨.inl hp, htoken, hpassword, fun hkey => ?_⟩
    -- no key is there twice
    rw [List.map_append] at h_keys
    exact (List.nodup_append.mp h_keys).2.2 p.1 (List.mem_map_of_mem hp) p.1 hkey rfl

end Sample

/-- The token of the sample. -/
def sampleToken : String := codePoints ((sampleNotification none).tokenText "password")

/-- A signature of the sample with a terminal's key. -/
def terminalKeySignature : String :=
  signature codePointDigest "password" (sampleObject [("TerminalKey", .str "terminal")])

theorem nodup_sampleKeys {others : List (String × Json)}
    (h : (others.map Prod.fst ++ sampleMembers.map Prod.fst).Nodup) :
    ((others ++ sampleMembers).map Prod.fst).Nodup := by
  rwa [List.map_append]

theorem readToken_sampleObject {others : List (String × Json)} {token : String}
    (h_keys : ((others ++ sampleMembers).map Prod.fst).Nodup)
    (h : ("Token", Json.str token) ∈ others) :
    (sampleObject others).get? "Token" = some (.str token) ∧
      readToken (member (sampleObject others) "Token" "token") = .ok (some token) := by
  have hget : (sampleObject others).get? "Token" = some (.str token) :=
    (Dict.get?_ofList h_keys).mpr (List.mem_append_left _ h)
  refine ⟨hget, ?_⟩
  unfold member
  rw [hget]
  rfl

/-- Without further members the signed notification is verified. -/
theorem verifies_signature_sample :
    VerifiesSignature codePointDigest "password" (sampleObject [("Token", .str sampleToken)])
      (sampleNotification (some sampleToken)) := by
  have hkeys : (([("Token", Json.str sampleToken)] ++ sampleMembers).map Prod.fst).Nodup :=
    nodup_sampleKeys (by decide)
  obtain ⟨hget, hread⟩ := readToken_sampleObject hkeys List.mem_cons_self
  have h := verifies_signature_iff codePointDigest "password"
    (modelValidate_sampleObject hkeys hread)
  refine h.1.mpr ⟨sampleToken, codePointDigest.ascii _, .inl ⟨hget, .inl
    (congrArg codePointDigest.hashString ?_)⟩⟩
  refine (h.2 (canonical_sampleObject hkeys _)).mpr ?_
  intro p hp
  obtain ⟨hmem, hne, -⟩ := (mem_furtherMembers_sampleObject hkeys).mp hp
  rw [List.mem_singleton.mp hmem] at hne
  exact absurd rfl hne

/-- The members of the sample with a terminal's key and its signature. -/
theorem nodup_terminalKeys :
    (([("TerminalKey", Json.str "terminal"), ("Token", .str terminalKeySignature)] ++
      sampleMembers).map Prod.fst).Nodup :=
  nodup_sampleKeys (by decide)

/-- The token is not part of what is signed. -/
theorem signature_terminalKey :
    signature codePointDigest "password" (sampleObject [("TerminalKey", .str "terminal"),
      ("Token", .str terminalKeySignature)]) = terminalKeySignature := by
  have hkeys : (([("TerminalKey", Json.str "terminal")] ++ sampleMembers).map Prod.fst).Nodup :=
    nodup_sampleKeys (by decide)
  have hsigned : signedMembers "password" (sampleObject [("TerminalKey", .str "terminal"),
      ("Token", .str terminalKeySignature)]) =
      signedMembers "password" (sampleObject [("TerminalKey", .str "terminal")]) := by
    unfold signedMembers sampleObject
    rw [Dict.rows_ofList nodup_terminalKeys, Dict.rows_ofList hkeys]
    simp [List.filterMap_cons]
  exact congrArg (fun members => codePointDigest.hashString (joinByKey members)) hsigned

/-- The terminal's key has a text, so it changes the signature. -/
theorem terminalKeySignature_ne :
    terminalKeySignature ≠ codePointDigest.hashString
      ((sampleNotification (some terminalKeySignature)).tokenText "password") := by
  intro h
  rw [← signature_terminalKey] at h
  have hempty := (joinByKey_signedMembers_iff (canonical_sampleObject nodup_terminalKeys _)
    "password").mp (codePoints_injective h) ("TerminalKey", .str "terminal")
    ((mem_furtherMembers_sampleObject nodup_terminalKeys).mpr
      ⟨List.mem_cons_self, by decide, by decide⟩) "terminal" rfl
  exact absurd hempty (by decide)

/-- Without a token among its members the sample has none. -/
theorem readToken_sampleObject_nil :
    readToken (member (sampleObject []) "Token" "token") = .ok none := by
  have hkeys : (([] ++ sampleMembers).map Prod.fst).Nodup := nodup_sampleKeys (by decide)
  have hnone : ∀ key, key ∉ sampleMembers.map Prod.fst → (sampleObject []).get? key = none := by
    intro key hkey
    refine Dict.get?_eq_none.mpr fun hmem => hkey ?_
    rwa [sampleObject, Dict.keys_ofList hkeys] at hmem
  unfold member
  rw [hnone "Token" (by decide), hnone "token" (by decide)]
  rfl

/-- With the terminal's key among its members the signed notification is not verified, and
without a token the verification raises. -/
theorem terminalKey_not_verified :
    (let J := sampleObject [("TerminalKey", .str "terminal"),
        ("Token", .str terminalKeySignature)]
      ∃ n, modelValidate .strict J = .ok n ∧
        J.get? "Token" = some (.str (signature codePointDigest "password" J)) ∧
        n.verify codePointDigest "password" = .ok false ∧
        ¬ VerifiesSignature codePointDigest "password" J n) ∧
    (let J := sampleObject []
      ∃ n, modelValidate .strict J = .ok n ∧
        n.verify codePointDigest "password" = .error .typeError ∧
        ¬ VerifiesSignature codePointDigest "password" J n) := by
  -- the bank signs `TerminalKey` as well, which is dropped on reading
  obtain ⟨hget, hread⟩ := readToken_sampleObject nodup_terminalKeys
    (List.mem_cons_of_mem _ List.mem_cons_self)
  have hsigned : (sampleObject [("TerminalKey", .str "terminal"),
      ("Token", .str terminalKeySignature)]).get? "Token" = some (.str
        (signature codePointDigest "password" (sampleObject [("TerminalKey", .str "terminal"),
          ("Token", .str terminalKeySignature)]))) := by
    rw [signature_terminalKey]
    exact hget
  have hverify : (sampleNotification (some terminalKeySignature)).verify codePointDigest
      "password" = .ok false :=
    (PaymentStatusNotification.verify_eq_ok _ _ _).mpr
      ⟨terminalKeySignature, rfl, codePointDigest.ascii _,
        (decide_eq_false terminalKeySignature_ne).symm⟩
  -- without a token `None` is compared, which raises
  have hraise : (sampleNotification none).verify codePointDigest "password" =
      .error .typeError := rfl
  refine ⟨⟨_, modelValidate_sampleObject nodup_terminalKeys hread, hsigned, hverify, ?_⟩,
    ⟨_, modelValidate_sampleObject (nodup_sampleKeys (by decide)) readToken_sampleObject_nil,
      hraise, ?_⟩⟩
  · rintro ⟨answer, hanswer, hiff⟩
    rw [hverify] at hanswer
    cases hanswer
    exact absurd (hiff.mpr hsigned) nofun
  · rintro ⟨answer, hanswer, -⟩
    rw [hraise] at hanswer
    cases hanswer

/-! ### What a token authenticates -/

/-- What two notifications with the same token have in common. The texts of the fields follow
each other without separators, so where a text ends is known from its length only. -/
structure SameSigned (n₁ n₂ : PaymentStatusNotification) : Prop where
  success : n₁.success = n₂.success
  amount : n₁.amount = n₂.amount ↔ (toString n₁.amount).length = (toString n₂.amount).length
  status : n₁.status = n₂.status ↔ n₁.status.length = n₂.status.length
  payment_id : n₁.status = n₂.status → (n₁.paymentId = n₂.paymentId ↔
    (toString n₁.paymentId).length = (toString n₂.paymentId).length)
  invoice_id : (toString n₁.amount ++ toString n₁.cardId ++ n₁.errorCode ++ n₁.expDate).length =
    (toString n₂.amount ++ toString n₂.cardId ++ n₂.errorCode ++ n₂.expDate).length →
      n₁.invoiceId = n₂.invoiceId

/-- The characters that are hashed after the invoice's id. -/
def PaymentStatusNotification.signedTail (password : String) (n : PaymentStatusNotification) :
    List Char :=
  n.pan.toList ++ (password.toList ++ ((toString n.paymentId).toList ++
    (n.status.toList ++ (lowered n.success).toList)))

/-- Texts that are equal when their lengths are, in front of any others. -/
theorem eq_iff_length_of_append_eq {s s' : String} {l l' : List Char}
    (h : s.toList ++ l = s'.toList ++ l') : s = s' ↔ s.length = s'.length := by
  refine ⟨congrArg _, fun hlen => ?_⟩
  rw [← String.length_toList, ← String.length_toList] at hlen
  exact String.toList_inj.mp (List.append_inj h hlen).1

/-- The same, after any others. -/
theorem eq_iff_length_of_append_eq' {s s' : String} {l l' : List Char}
    (h : l ++ s.toList = l' ++ s'.toList) : s = s' ↔ s.length = s'.length := by
  refine ⟨congrArg _, fun hlen => ?_⟩
  rw [← String.length_toList, ← String.length_toList] at hlen
  exact String.toList_inj.mp (List.append_inj' h hlen).2

/-- A text ends with one of the two booleans only. -/
theorem lowered_inj_of_append_eq {b b' : Bool} {l l' : List Char}
    (h : l ++ (lowered b).toList = l' ++ (lowered b').toList) : b = b' := by
  have hrev := congrArg List.reverse h
  cases b <;> cases b' <;> simp [lowered] at hrev ⊢

/-- **What a token authenticates**, when the digest has no collisions. -/
theorem verified_fields (hash : HexDigest) (password : String)
    (h_hash : Function.Injective hash.hashString) {n₁ n₂ : PaymentStatusNotification}
    (h₁ : n₁.verify hash password = .ok true) (h₂ : n₂.verify hash password = .ok true)
    (h_token : n₁.token = n₂.token) : SameSigned n₁ n₂ := by
  obtain ⟨token, htoken₁, -, hhash₁⟩ := (n₁.verify_eq_ok hash password).mp h₁
  obtain ⟨token', htoken₂, -, hhash₂⟩ := (n₂.verify_eq_ok hash password).mp h₂
  rw [htoken₁, htoken₂, Option.some.injEq] at h_token
  have htext : n₁.tokenText password = n₂.tokenText password := by
    apply h_hash
    calc hash.hashString (n₁.tokenText password)
        = token := (of_decide_eq_true hhash₁.symm).symm
      _ = token' := h_token
      _ = hash.hashString (n₂.tokenText password) := of_decide_eq_true hhash₂.symm
  -- the ten texts of both, as characters
  have h := congrArg String.toList htext
  rw [PaymentStatusNotification.tokenText_eq, PaymentStatusNotification.tokenText_eq,
    String.toList_join, String.toList_join] at h
  simp only [List.flatMap_cons, List.flatMap_nil, List.append_nil] at h
  have hleft := h
  simp only [← List.append_assoc] at hleft
  have hsuccess : n₁.success = n₂.success := lowered_inj_of_append_eq hleft
  refine ⟨hsuccess, Int.repr_inj.symm.trans (eq_iff_length_of_append_eq h), ?_, ?_, ?_⟩
  -- the status stands before the boolean
  · rw [hsuccess] at hleft
    exact eq_iff_length_of_append_eq' (List.append_cancel_right hleft)
  -- and the bank's id before the status
  · intro hstatus
    rw [hsuccess, hstatus] at hleft
    exact Int.repr_inj.symm.trans (eq_iff_length_of_append_eq'
      (List.append_cancel_right (List.append_cancel_right hleft)))
  · intro hlen
    -- what stands after the invoice's id
    have hprefix : (toString n₁.amount ++ toString n₁.cardId ++ n₁.errorCode ++
          n₁.expDate).toList ++ (n₁.invoiceId.str.toList ++ n₁.signedTail password) =
        (toString n₂.amount ++ toString n₂.cardId ++ n₂.errorCode ++
          n₂.expDate).toList ++ (n₂.invoiceId.str.toList ++ n₂.signedTail password) := by
      simp only [String.toList_append, List.append_assoc]
      exact h
    have hrest := (List.append_inj hprefix
      (by rw [String.length_toList, String.length_toList]; exact hlen)).2
    refine UUID.str_injective ((eq_iff_length_of_append_eq hrest).mpr ?_)
    rw [UUID.length_str, UUID.length_str]

/-- A notification for the invoice 13 and its payment 71. -/
def confirmedNotification (token : Option String) : PaymentStatusNotification where
  invoiceId := 13
  paymentId := 71
  status := "CONFIRMED"
  token := token
  amount := 10000
  cardId := 11
  errorCode := "0"
  expDate := ""
  pan := UUID.str 14
  success := true

/-- The same characters cut at other places. -/
def recutNotification (token : Option String) : PaymentStatusNotification where
  invoiceId := 14
  paymentId := 7
  status := "1CONFIRMED"
  token := token
  amount := 100001
  cardId := 1
  errorCode := "0"
  expDate := UUID.str 13
  pan := ""
  success := true

theorem tokenText_recutNotification (password : String) (token : Option String) :
    (recutNotification token).tokenText password =
      (confirmedNotification token).tokenText password := by
  rw [PaymentStatusNotification.tokenText_eq, PaymentStatusNotification.tokenText_eq]
  -- a digit goes from the card to the amount, and one from the payment to the status
  have hamount : toString (100001 : Int) ++ toString (1 : Int) =
      toString (10000 : Int) ++ toString (11 : Int) := by decide +kernel
  have hstatus : toString (7 : Int) ++ "1CONFIRMED" = toString (71 : Int) ++ "CONFIRMED" := by
    decide +kernel
  calc
    _ = (toString (100001 : Int) ++ toString (1 : Int)) ++ "0" ++ UUID.str 13 ++ UUID.str 14 ++
          password ++ (toString (7 : Int) ++ "1CONFIRMED") ++ "true" := by
      simp [recutNotification, lowered, String.append_assoc]
    _ = (toString (10000 : Int) ++ toString (11 : Int)) ++ "0" ++ UUID.str 13 ++ UUID.str 14 ++
          password ++ (toString (71 : Int) ++ "CONFIRMED") ++ "true" := by
      rw [hamount, hstatus]
    _ = _ := by
      simp [confirmedNotification, lowered, String.append_assoc]

/-- A notification with the hash of its own text is verified. -/
theorem verify_of_token_eq {hash : HexDigest} {password : String} {n : PaymentStatusNotification}
    (h : n.token = some (hash.hashString (n.tokenText password))) :
    n.verify hash password = .ok true :=
  (n.verify_eq_ok hash password).mpr ⟨_, h, hash.ascii _, (decide_eq_true rfl).symm⟩

/-- The common token of both. -/
def recutToken : String := codePoints ((confirmedNotification none).tokenText "password")

theorem verified_fields_confirmed :
    SameSigned (confirmedNotification (some recutToken)) (recutNotification (some recutToken)) :=
  verified_fields codePointDigest "password" codePoints_injective (verify_of_token_eq rfl)
    (verify_of_token_eq (congrArg (fun s => some (codePoints s))
      (tokenText_recutNotification "password" none).symm)) rfl

/-- Both are verified with the same token, and only the success is the same. -/
theorem recut_verified :
    Function.Injective codePointDigest.hashString ∧
      (confirmedNotification (some recutToken)).verify codePointDigest "password" = .ok true ∧
      (recutNotification (some recutToken)).verify codePointDigest "password" = .ok true ∧
      (confirmedNotification (some recutToken)).token =
        (recutNotification (some recutToken)).token ∧
      (confirmedNotification (some recutToken)).amount ≠
        (recutNotification (some recutToken)).amount ∧
      (confirmedNotification (some recutToken)).invoiceId ≠
        (recutNotification (some recutToken)).invoiceId ∧
      (confirmedNotification (some recutToken)).paymentId ≠
        (recutNotification (some recutToken)).paymentId ∧
      (confirmedNotification (some recutToken)).status ≠
        (recutNotification (some recutToken)).status := by
  refine ⟨codePoints_injective, verify_of_token_eq rfl, verify_of_token_eq ?_, rfl,
    by decide, by decide, by decide, by decide⟩
  exact congrArg (fun s => some (codePoints s)) (tokenText_recutNotification "password" none).symm

end Tinkoff

end Storefront
