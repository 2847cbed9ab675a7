import FleetFreeScout.Client
import Mathlib.Data.List.Sort

namespace FleetFreeScout.Externalsvc

structure FreeScoutCustomer where
  email : String
deriving DecidableEq, Repr

structure FreeScoutThread where
  text : String
  type : String
  customer : Option FreeScoutCustomer
deriving DecidableEq, Repr

structure FreeScoutThreadPayload where
  type : String
  text : String
  customer : Option FreeScoutCustomer
  imported : Bool
  status : String
deriving DecidableEq, Repr

structure FreeScoutConversationPayload where
  type : String
  mailboxID : Int
  subject : String
  customer : Option FreeScoutCustomer
  threads : List FreeScoutThread
  imported : Bool
  assignTo : Option Int
  status : String
deriving DecidableEq, Repr

/-- A JSON request body before json.Marshal, which cannot fail on these types. -/
inductive Body
  | conversation (payload : FreeScoutConversationPayload)
  | thread (payload : FreeScoutThreadPayload)
deriving DecidableEq, Repr

structure Request where
  method : String
  url : String
  header : List (String × String)
  body : Option Body
deriving DecidableEq, Repr

/-- An HTTP response; `header` is Header.Get, the empty string for an absent header. -/
structure Response where
  statusCode : Nat
  header : String → String
  body : String

/-- One byte of url.QueryEscape: unreserved bytes stay, a space becomes '+', the rest %XX. -/
def escapeByte (b : UInt8) : String :=
  let c := Char.ofNat b.toNat
  if c.isAlphanum || "-_.~".data.contains c then c.toString
  else if c = ' ' then "+"
  else "%" ++ ((Nat.toDigits 16 b.toNat).map Char.toUpper).asString.leftpad 2 '0'

/-- url.QueryEscape, over the UTF-8 bytes of the string. -/
def queryEscape (s : String) : String :=
  String.join ((s.data.flatMap String.utf8EncodeChar).map escapeByte)

/-- url.Values.Encode: keys in sorted order (byte order, which is String.lt's), each pair
escaped and joined by '&'. -/
def encode (values : List (String × String)) : String :=
  "&".intercalate ((values.insertionSort fun a b => !@decide _ (String.decLt b.1 a.1)).map
    fun kv => queryEscape kv.1 ++ "=" ++ queryEscape kv.2)

/-- The optional sign strconv.ParseInt accepts before the digits: whether it is '-', and
the rest. -/
def splitSign : List Char → Bool × List Char
  | '+' :: ds => (false, ds)
  | '-' :: ds => (true, ds)
  | ds => (false, ds)

/-- strconv.ParseInt(s, 10, 64): an optional sign, decimal digits, in the int64 range. -/
def parseInt (s : String) : Option Int :=
  let (neg, digits) := splitSign s.data
  if digits = [] ∨ !digits.all Char.isDigit then none
  else
    let v : Int := if neg then -(decimalValue digits : Int) else decimalValue digits
    if -2 ^ 63 ≤ v ∧ v < 2 ^ 63 then some v else none

theorem splitSign_of_isDigit {c : Char} {rest : List Char} (hc : c.isDigit) :
    splitSign (c :: rest) = (false, c :: rest) := by
  unfold splitSign
  split <;> rename_i heq
  · cases heq; exact absurd hc (by decide)
  · cases heq; exact absurd hc (by decide)
  · rfl

/-- ParseInt reads back the decimal form of every int64. -/
theorem parseInt_toString {n : Int} (h : -2 ^ 63 ≤ n ∧ n < 2 ^ 63) :
    parseInt (toString n) = some n := by
  have digits : ∀ m : Nat, (toString m).data ≠ [] ∧ (toString m).data.all Char.isDigit := fun m =>
    ⟨toString_data_ne_nil m, List.all_eq_true.mpr (toString_data_isDigit m)⟩
  cases n with
  | ofNat m =>
    obtain ⟨c, rest, hcr⟩ := List.exists_cons_of_ne_nil (toString_data_ne_nil m)
    have hsign : splitSign (toString (Int.ofNat m)).data = (false, (toString m).data) := by
      have hc : c.isDigit := toString_data_isDigit m c (by simp [hcr])
      exact (congrArg splitSign hcr).trans ((splitSign_of_isDigit hc).trans (by rw [hcr]))
    simp only [parseInt, hsign, digits, decimalValue_toString]
    simpa using h
  | negSucc m =>
    have hs : (toString (Int.negSucc m)).data = '-' :: (toString (m + 1)).data := rfl
    simp only [parseInt, hs, splitSign, digits, decimalValue_toString]
    rw [Int.negSucc_eq] at h ⊢
    simpa using h

def FreeScout.apiHeader (f : FreeScout) : List (String × String) :=
  [("X-FreeScout-API-Key", f.opts.apiToken), ("Content-Type", "application/json")]

def requestFailed (resp : Response) : String :=
  "freescout request failed: status " ++ toString resp.statusCode ++ ": " ++ trimSpace resp.body

def FreeScout.searchParams (f : FreeScout) (subject : String) : List (String × String) :=
  [("embed", "threads"), ("mailboxId", toString f.opts.mailboxID), ("status", "active"),
    ("state", "published"), ("type", "email"), ("customerEmail", f.opts.customerEmail),
    ("subject", subject), ("sortField", "updatedAt"), ("sortOrder", "asc"), ("page", "1"),
    ("pageSize", "1")]

def FreeScout.conversationPayload (f : FreeScout) (subject message : String) :
    FreeScoutConversationPayload :=
  { type := "email"
    mailboxID := f.opts.mailboxID
    subject := subject
    customer := some ⟨f.opts.customerEmail⟩
    threads := [⟨message, "customer", some ⟨f.opts.customerEmail⟩⟩]
    imported := false
    assignTo := if f.opts.assignTo > 0 then some f.opts.assignTo else none
    status := "active" }

def FreeScout.threadPayload (f : FreeScout) (message : String) : FreeScoutThreadPayload :=
  ⟨"customer", message, some ⟨f.opts.customerEmail⟩, false, "active"⟩

/-- The search of findExistingConversationID: the oldest active conversation of the mailbox
with this subject and customer. -/
def FreeScout.searchRequest (f : FreeScout) (subject : String) : Request :=
  ⟨"GET", f.opts.url ++ "/api/conversations?" ++ encode (f.searchParams subject), f.apiHeader, none⟩

def FreeScout.threadRequest (f : FreeScout) (conversationID : Int) (message : String) : Request :=
  ⟨"POST", f.opts.url ++ "/api/conversations/" ++ toString conversationID ++ "/threads",
    f.apiHeader, some (.thread (f.threadPayload message))⟩

def FreeScout.conversationRequest (f : FreeScout) (subject message : String) : Request :=
  ⟨"POST", f.opts.url ++ "/api/conversations", f.apiHeader,
    some (.conversation (f.conversationPayload subject message))⟩

/-- The id from the Resource-ID header; an absent or malformed header gives 0. -/
def resourceID (resp : Response) : Int :=
  let header := resp.header "Resource-ID"
  if header = "" then 0 else (parseInt header).getD 0

theorem resourceID_toString {resp : Response} {id : Int}
    (hid : resp.header "Resource-ID" = toString id) (hr : -2 ^ 63 ≤ id ∧ id < 2 ^ 63) :
    resourceID resp = id := by
  have hne : toString id ≠ "" := fun he => by
    have h := parseInt_toString hr
    simp [he, parseInt, splitSign] at h
  simp [resourceID, hid, hne, parseInt_toString hr]

section

variable (urlParse : String → Except String URL)
  (transport : Request → Except String Response)
  (decodeConversations : String → Except String (List Int))

/-- http.NewRequestWithContext, which parses the URL, then f.client.Do: the response and
the requests that went out. -/
def send (req : Request) : Except String Response × List Request :=
  match urlParse req.url with
  | .error err => (.error err, [])
  | .ok _ => (transport req, [req])

/-- Sends a request and fails on a status outside 2xx. -/
def sendChecked (req : Request) : Except String Response × List Request :=
  match send urlParse transport req with
  | (.ok resp, sent) =>
    if resp.statusCode / 100 ≠ 2 then (.error (requestFailed resp), sent) else (.ok resp, sent)
  | (.error err, sent) => (.error err, sent)

def FreeScout.findExistingConversationID (f : FreeScout) (subject : String) :
    Except String Int × List Request :=
  match sendChecked urlParse transport (f.searchRequest subject) with
  | (.ok resp, sent) =>
    match decodeConversations resp.body with
    | .ok [] => (.ok 0, sent)
    | .ok (id :: _) => (.ok id, sent)
    | .error err => (.error err, sent)
  | (.error err, sent) => (.error err, sent)

def FreeScout.createFreeScoutThread (f : FreeScout) (conversationID : Int) (message : String) :
    Except String Unit × List Request :=
  match sendChecked urlParse transport (f.threadRequest conversationID message) with
  | (.ok _, sent) => (.ok (), sent)
  | (.error err, sent) => (.error err, sent)

/-- CreateFreeScoutConversation: append a thread to the oldest active conversation with
this subject, or create a conversation. -/
def FreeScout.createFreeScoutConversation (f : FreeScout) (subject message : String) :
    Except String Int × List Request :=
  match f.findExistingConversationID urlParse transport decodeConversations subject with
  | (.error err, sent) => (.error err, sent)
  | (.ok existingID, sent) =>
    if existingID > 0 then
      match f.createFreeScoutThread urlParse transport existingID message with
      | (.ok (), sent') => (.ok existingID, sent ++ sent')
      | (.error err, sent') => (.error err, sent ++ sent')
    else
      match sendChecked urlParse transport (f.conversationRequest subject message) with
      | (.ok resp, sent') => (.ok (resourceID resp), sent ++ sent')
      | (.error err, sent') => (.error err, sent ++ sent')

variable {urlParse transport decodeConversations}

theorem send_sent (req : Request) :
    (send urlParse transport req).2 <+: [req] ∧
      ∀ resp, (send urlParse transport req).1 = .ok resp → (send urlParse transport req).2 = [req] := by
  unfold send
  split <;> simp

theorem sendChecked_sent (req : Request) :
    (sendChecked urlParse transport req).2 <+: [req] ∧
      ∀ resp, (sendChecked urlParse transport req).1 = .ok resp →
        (sendChecked urlParse transport req).2 = [req] := by
  have hs : (send urlParse transport req).2 <+: [req] ∧
      ∀ resp, (send urlParse transport req).1 = .ok resp → (send urlParse transport req).2 = [req] :=
    send_sent req
  unfold sendChecked
  rcases hr : send urlParse transport req with ⟨_ | resp, sent⟩ <;> rw [hr] at hs
  · exact ⟨hs.1, by simp⟩
  · have hsent : sent = [req] := hs.2 resp rfl
    dsimp only
    split_ifs <;> simp [hsent]

theorem findExistingConversationID_sent (f : FreeScout) (subject : String) :
    (f.findExistingConversationID urlParse transport decodeConversations subject).2 <+:
        [f.searchRequest subject] ∧
      ∀ id, (f.findExistingConversationID urlParse transport decodeConversations subject).1 =
          .ok id →
        (f.findExistingConversationID urlParse transport decodeConversations subject).2 =
          [f.searchRequest subject] := by
  have hs := @sendChecked_sent urlParse transport (f.searchRequest subject)
  unfold FreeScout.findExistingConversationID
  rcases hr : sendChecked urlParse transport (f.searchRequest subject) with ⟨_ | resp, sent⟩ <;>
    rw [hr] at hs
  · exact ⟨hs.1, by simp⟩
  · have hsent : sent = [f.searchRequest subject] := hs.2 resp rfl
    dsimp only
    split <;> simp [hsent]

theorem createFreeScoutThread_sent (f : FreeScout) (conversationID : Int) (message : String) :
    (f.createFreeScoutThread urlParse transport conversationID message).2 <+:
      [f.threadRequest conversationID message] := by
  have hs := (@sendChecked_sent urlParse transport (f.threadRequest conversationID message)).1
  unfold FreeScout.createFreeScoutThread
  split <;> rename_i h <;> rw [h] at hs <;> exact hs

/-- The requests of CreateFreeScoutConversation, in order: the search for the subject, then,
once the search succeeded, a thread on the conversation it found or a new conversation. -/
theorem createFreeScoutConversation_prefix (f : FreeScout) (subject message : String) :
    (f.createFreeScoutConversation urlParse transport decodeConversations subject message).2 <+:
        [f.searchRequest subject] ∨
      ∃ existingID, (f.findExistingConversationID urlParse transport decodeConversations
          subject).1 = .ok existingID ∧
        (f.createFreeScoutConversation urlParse transport decodeConversations subject
            message).2 <+:
          [f.searchRequest subject, if existingID > 0 then f.threadRequest existingID message
            else f.conversationRequest subject message] := by
  have hfind :=
    @findExistingConversationID_sent urlParse transport decodeConversations f subject
  unfold FreeScout.createFreeScoutConversation
  rcases hf : f.findExistingConversationID urlParse transport decodeConversations subject with
    ⟨_ | existingID, sent⟩ <;> rw [hf] at hfind
  · exact .inl hfind.1
  · refine .inr ⟨existingID, rfl, ?_⟩
    have hsent : sent = [f.searchRequest subject] := hfind.2 existingID rfl
    subst hsent
    dsimp only
    split_ifs with hpos
    · have ht := @createFreeScoutThread_sent urlParse transport f existingID message
      split <;> rename_i h <;> rw [h] at ht <;> exact (List.prefix_append_right_inj [_]).mpr ht
    · have hc := (@sendChecked_sent urlParse transport (f.conversationRequest subject message)).1
      split <;> rename_i h <;> rw [h] at hc <;> exact (List.prefix_append_right_inj [_]).mpr hc

/-- The requests of one conversation through client f: the search for `subject`, then at
most one write, a new conversation with that subject and `message`, or `message` as a thread on
a conversation the search found. -/
def FreeScout.SearchThenWrite (f : FreeScout) (subject message : String) (sent : List Request) :
    Prop :=
  ∃ next, sent <+: [f.searchRequest subject, next] ∧
    (next = f.conversationRequest subject message ∨
      ∃ id, 0 < id ∧ next = f.threadRequest id message)

theorem createFreeScoutConversation_searchThenWrite (f : FreeScout) (subject message : String) :
    f.SearchThenWrite subject message
      (f.createFreeScoutConversation urlParse transport decodeConversations subject message).2 := by
  rcases createFreeScoutConversation_prefix f subject message with hp | ⟨id, -, hp⟩
  · exact ⟨_, hp.trans (List.prefix_append _ _), .inl rfl⟩
  · split_ifs at hp with hpos
    · exact ⟨_, hp, .inr ⟨id, hpos, rfl⟩⟩
    · exact ⟨_, hp, .inl rfl⟩

/-- When the search finds no conversation and the server accepts the new one, answering
with the decimal ID of the conversation it created in Resource-ID, CreateFreeScoutConversation
returns that ID. -/
theorem createFreeScoutConversation_returns_created_id {f : FreeScout} {subject message : String}
    {existingID id : Int} {resp : Response}
    (found : (f.findExistingConversationID urlParse transport decodeConversations subject).1 =
      .ok existingID) (hnone : existingID ≤ 0)
    (created : (sendChecked urlParse transport (f.conversationRequest subject message)).1 =
      .ok resp)
    (hid : resp.header "Resource-ID" = toString id) (hr : -2 ^ 63 ≤ id ∧ id < 2 ^ 63) :
    (f.createFreeScoutConversation urlParse transport decodeConversations subject message).1 =
      .ok id := by
  unfold FreeScout.createFreeScoutConversation
  rcases hf : f.findExistingConversationID urlParse transport decodeConversations subject with
    ⟨r, sent⟩
  rw [hf] at found
  subst found
  rcases hc : sendChecked urlParse transport (f.conversationRequest subject message) with
    ⟨r', sent'⟩
  rw [hc] at created
  subst created
  have hpos : ¬existingID > 0 := by omega
  simp [hpos, resourceID_toString hid hr]

end

/-- A FreeScout server with no conversation yet, which creates conversation 42. -/
def creatingTransport (req : Request) : Except String Response :=
  match req.body with
  | none => .ok ⟨200, fun _ => "", "{}"⟩
  | some _ => .ok ⟨201, fun _ => "42", ""⟩

theorem createFreeScoutConversation_returns_created_id_example :
    let f : FreeScout := ⟨0, ⟨"https://freescout.example.com", "token", 1, "fleet@example.com", 0⟩⟩
    let urlParse : String → Except String URL := fun _ => .ok ⟨"https", "freescout.example.com"⟩
    (f.findExistingConversationID urlParse creatingTransport (fun _ => .ok []) "CVE").1 = .ok 0 ∧
      (0 : Int) ≤ 0 ∧
      (sendChecked urlParse creatingTransport (f.conversationRequest "CVE" "message")).1 =
        .ok ⟨201, fun _ => "42", ""⟩ ∧
      (⟨201, fun _ => "42", ""⟩ : Response).header "Resource-ID" = toString (42 : Int) ∧
      (-2 ^ 63 ≤ (42 : Int) ∧ (42 : Int) < 2 ^ 63) ∧
      (f.createFreeScoutConversation urlParse creatingTransport (fun _ => .ok []) "CVE"
        "message").1 = .ok 42 :=
  ⟨rfl, le_refl _, rfl, rfl, by decide,
    createFreeScoutConversation_returns_created_id rfl (le_refl _) rfl rfl (by decide)⟩

end FleetFreeScout.Externalsvc
