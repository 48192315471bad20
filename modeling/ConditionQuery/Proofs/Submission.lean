import ConditionQuery.Proofs.RequestTexts
import ConditionQuery.Proofs.RouteAgreement

/-! A condition that is submitted with the program, and the same condition posted on its own. A
submission may leave the table to the hub, but it always says whether its condition follows a
projection; what the hub is configured with for that does not count. Otherwise both come to the
same. -/
namespace ConditionQuery
open CommandLine

section Request

variable {request : Request} (json : request.contentType = some "application/json")

include json

theorem Request.read_eq (fits : request.body.size ≤ maxBodySize) :
    request.read CompileRequest.shape CompileRequest.decode =
      (CompileRequest.readBytes request.body).mapError .unreadable := by
  have media : request.contentType.any MediaType.isJson = true := by
    rw [json]
    decide +kernel
  unfold Request.read
  rw [media, if_neg (Nat.not_lt_of_le fits)]
  rfl

theorem Request.read_oversized (oversized : maxBodySize < request.body.size) :
    request.read CompileRequest.shape CompileRequest.decode = .error .bodyTooLarge := by
  have media : request.contentType.any MediaType.isJson = true := by
    rw [json]
    decide +kernel
  unfold Request.read
  rw [media, if_pos oversized]
  rfl

end Request

theorem routed_conditions : Route.ofPath? "/api/conditions" = some .conditions := by decide +kernel

/-- A submission posts the tree that its document holds, with the options. -/
theorem posts_submission {table : Option String} {afterSelect : Bool} {v : Json} {e : Expr}
    (reprints : v.Reprints 126) (decoded : Expr.decode .direct v = .ok e)
    (fits : (submission table afterSelect v).body.size ≤ maxBodySize) :
    (submission table afterSelect v).Posts .conditions ⟨table, some afterSelect, e⟩ where
  posted := rfl
  routed := routed_conditions
  decoded := by
    rw [Request.read_eq rfl fits, submission,
      CompileRequest.readBytes_submission table afterSelect reprints decoded]
    rfl

/-- The text is posted as the condition, with nothing beside it. -/
def posting (text : String) : Request where
  method := .post
  path := "/api/conditions"
  contentType := some "application/json"
  body := ("\x7b\"condition\":" ++ text ++ "\x7d").toUTF8

/-- A text that holds a tree posts the tree. -/
theorem posts_posting {text : String} {v : Json} {e : Expr} (parsed : Json.parse text = .ok v)
    (reprints : v.Reprints 126) (decoded : Expr.decode .direct v = .ok e)
    (fits : (posting text).body.size ≤ maxBodySize) :
    (posting text).Posts .conditions ⟨none, none, e⟩ where
  posted := rfl
  routed := routed_conditions
  decoded := by
    rw [Request.read_eq rfl fits, posting,
      CompileRequest.readBytes_alone parsed reprints decoded]
    rfl

namespace Hub

variable {hub hub' : Hub} {visit visit' : Visit}

/-- The hub with the options of a submission in place of those configured. -/
def preset (hub : Hub) (table : Option String) (afterSelect : Bool) : Hub :=
  { hub with
    config := { hub.config with defaultTable := table <|> hub.config.defaultTable, afterSelect } }

theorem preset_self (hub : Hub) : hub.preset none hub.config.afterSelect = hub := rfl

theorem compile_preset (hub : Hub) (table : Option String) (afterSelect : Bool) (e : Expr) :
    (hub.preset table afterSelect).config.compile ⟨none, none, e⟩ =
      hub.config.compile ⟨table, some afterSelect, e⟩ := by
  have resolved : (hub.preset table afterSelect).config.resolve ⟨none, none, e⟩ =
      hub.config.resolve ⟨table, some afterSelect, e⟩ := by
    cases table with
    | none => rfl
    | some table => rfl
  rw [HubConfig.compile, HubConfig.compile, resolved]

/-- What is stored of a condition that is accepted. -/
def stamped (arrival : Arrival) (e : Expr) (c : CompiledCondition) : StoredCondition :=
  ⟨newId arrival, arrival.time, e, c⟩

/-- Two posted conditions come to the same on their hubs: the same is stored, and the answers
differ in nothing but the id and the time; or both are refused with the same answer, and the hubs
stay as they are. -/
inductive Alike (hub hub' : Hub) (visit visit' : Visit) : Prop where
  | stored (e : Expr) (c : CompiledCondition)
    (answer : hub.answer visit = .document .created (stamped visit.arrival e c).encode)
    (answer' : hub'.answer visit' = .document .created (stamped visit'.arrival e c).encode)
    (next : hub.next visit =
      { hub with store := hub.store.insert (stamped visit.arrival e c) })
    (next' : hub'.next visit' =
      { hub' with store := hub'.store.insert (stamped visit'.arrival e c) })
  | refused (r : Refusal) (answer : hub.answer visit = .refusal r)
    (answer' : hub'.answer visit' = .refusal r)
    (next : hub.next visit = hub) (next' : hub'.next visit' = hub')

theorem Alike.status_eq (alike : Alike hub hub' visit visit') :
    (hub.answer visit).status = (hub'.answer visit').status := by
  cases alike with
  | stored e c answer answer' =>
    rw [answer, answer']
    rfl
  | refused r answer answer' => rw [answer, answer']

theorem respond_of_compiled {wanted : CompileRequest} {c : CompiledCondition}
    (sent : visit.request.Posts .conditions wanted) (compiled : hub.config.compile wanted = .ok c) :
    hub.respond visit.arrival visit.request =
      (.document .created (stamped visit.arrival wanted.condition c).encode,
        { hub with store := hub.store.insert (stamped visit.arrival wanted.condition c) }) := by
  rw [respond_conditions sent, create, compiled]
  rfl

/-- A condition that cannot be read is refused. -/
theorem respond_unread {request : Request} (hub : Hub) (arrival : Arrival)
    (posted : request.method = .post) (routed : Route.ofPath? request.path = some .conditions)
    {r : Refusal} (unread : request.read CompileRequest.shape CompileRequest.decode = .error r) :
    hub.respond arrival request = (.refusal r, hub) := by
  simp only [respond, routed, posted, serve?, unread, Option.getD_some]
  rfl

/-- Requests for one tree come to the same on hubs that compile it alike. -/
theorem alike_of_posts {wanted wanted' : CompileRequest}
    (sent : visit.request.Posts .conditions wanted)
    (sent' : visit'.request.Posts .conditions wanted')
    (tree : wanted.condition = wanted'.condition)
    (same : hub.config.compile wanted = hub'.config.compile wanted') :
    Alike hub hub' visit visit' := by
  cases compiled : hub.config.compile wanted with
  | error r =>
    rw [compiled] at same
    have refused : hub.respond visit.arrival visit.request = (.refusal r, hub) :=
      respond_error (.inr sent) compiled
    have refused' : hub'.respond visit'.arrival visit'.request = (.refusal r, hub') :=
      respond_error (.inr sent') same.symm
    exact .refused r (congrArg Prod.fst refused) (congrArg Prod.fst refused')
      (congrArg Prod.snd refused) (congrArg Prod.snd refused')
  | ok c =>
    rw [compiled] at same
    have answered := respond_of_compiled sent compiled
    have answered' := respond_of_compiled sent' same.symm
    rw [← tree] at answered'
    exact .stored wanted.condition c (congrArg Prod.fst answered) (congrArg Prod.fst answered')
      (congrArg Prod.snd answered) (congrArg Prod.snd answered')

end Hub

namespace CommandLine

/-- What a run shows of a reply. -/
def Outcome.ofReply (reply : Reply) : Outcome :=
  match reply.shown with
  | .ok out => .success out
  | .error err => .failure err

/-- A client of a hub: its files and its standard input, and what the hub learns from outside when
the client's request arrives. -/
structure Client where
  files : String → Except ReadFailure ByteArray
  input : Except ReadFailure ByteArray
  arrival : Arrival

/-- The client's requests are answered by the hub, which is the state. -/
def Client.environment (client : Client) : Environment (StateM Hub) where
  fileContent path := pure (client.files path)
  inputContent := pure client.input
  send request := fun hub =>
    let (response, after) := hub.respond client.arrival request
    (.ok (.ofResponse response), after)

/-- The text in a source of the client. -/
def Client.text (client : Client) (source : String) : Except CommandError String :=
  decodeSource source (if source = "-" then client.input else client.files source)

theorem run_readJson {client : Client} {source text : String} {v : Json}
    (holds : client.text source = .ok text) (parsed : Json.parse text = .ok v) :
    ExceptT.run (readJson client.environment source Json.parse) =
      (pure (.ok v) : StateM Hub (Except CommandError Json)) := by
  have decoded {found : Except ReadFailure ByteArray}
      (holds : decodeSource source found = .ok text) :
      ExceptT.run (do
        let text ← decodeSource source found
        MonadExcept.ofExcept ((Json.parse text).mapError (CommandError.invalidJson source)) :
          Run (StateM Hub) Json) = pure (.ok v) := by
    rw [holds]
    change ExceptT.run (MonadExcept.ofExcept ((Json.parse text).mapError _) :
      Run (StateM Hub) Json) = _
    rw [parsed]
    rfl
  unfold Client.text at holds
  unfold readJson
  split at holds
  · rename_i standard
    rw [if_pos standard]
    exact decoded holds
  · rename_i named
    rw [if_neg named]
    exact decoded holds

/-- What is asked of the hub is shown as it is answered. -/
theorem run_ask (client : Client) (request : Request) (hub : Hub) :
    (ExceptT.run (ask client.environment request)).run hub =
      ((Reply.ofResponse (hub.answer ⟨client.arrival, request⟩)).shown,
        hub.next ⟨client.arrival, request⟩) := by
  change (ExceptT.run (do
    return (← (Reply.ofResponse (hub.answer ⟨client.arrival, request⟩)).shown) :
      Run (StateM Hub) String)).run (hub.next ⟨client.arrival, request⟩) = _
  cases (Reply.ofResponse (hub.answer ⟨client.arrival, request⟩)).shown with
  | error err => rfl
  | ok out => rfl

theorem run_submit {client : Client} {arguments : List String} {table : Option String}
    {afterSelect : Bool} {source text : String} {v : Json}
    (asked : Invocation.read? arguments = some (.run (.submit table afterSelect source)))
    (holds : client.text source = .ok text) (parsed : Json.parse text = .ok v) (hub : Hub) :
    (run client.environment arguments).run hub =
      (.ofReply (.ofResponse (hub.answer ⟨client.arrival, submission table afterSelect v⟩)),
        hub.next ⟨client.arrival, submission table afterSelect v⟩) := by
  have sent := run_ask client (submission table afterSelect v) hub
  simp only [run, asked, runCommand, ExceptT.run_bind, run_readJson holds parsed, pure_bind,
    StateT.run_bind, sent]
  unfold Outcome.ofReply
  cases (Reply.ofResponse (hub.answer ⟨client.arrival, submission table afterSelect v⟩)).shown with
  | error err => rfl
  | ok out => rfl

end CommandLine

namespace Hub

/-- A file that holds a tree is submitted, and another request posts the tree with nothing beside
it, as the text of the file itself does where it is posted. What is submitted is shown as the hub
answers it, and the hub makes of it what it would make of the other request if it were configured
with the options of the submission. The configured table stays where the submission names none;
whether conditions follow a projection is taken from the submission even if nothing was said. So it
is the hub itself that is left to decide if the submission says of that what is configured. The
program sends the document of the file as it prints it, so it has to be one that is read back from
what is printed; and what is too large for the hub is refused as such. -/
theorem run_submit_alike (hub : Hub) (client : Client) (direct : Visit) {arguments : List String}
    {table : Option String} {afterSelect : Bool} {source text : String} {e : Expr}
    (asked : Invocation.read? arguments = some (.run (.submit table afterSelect source)))
    (holds : client.text source = .ok text) (tree : Expr.parse text = .ok e)
    (posts : direct.request.Posts .conditions ⟨none, none, e⟩) :
    ∃ v, Json.parse text = .ok v ∧
      let sent : Visit := ⟨client.arrival, submission table afterSelect v⟩
      (run client.environment arguments).run hub =
        (.ofReply (.ofResponse (hub.answer sent)), hub.next sent) ∧
      (v.Reprints 126 → sent.request.body.size ≤ maxBodySize →
        Alike hub (hub.preset table afterSelect) sent direct) ∧
      (v.Reprints 126 → (posting text).body.size ≤ maxBodySize →
        (posting text).Posts .conditions ⟨none, none, e⟩) ∧
      (maxBodySize < sent.request.body.size →
        hub.answer sent = .refusal .bodyTooLarge ∧ hub.next sent = hub) ∧
      (table = none → afterSelect = hub.config.afterSelect →
        hub.preset table afterSelect = hub) := by
  obtain ⟨v, parsed, decoded⟩ := Expr.exists_of_parse tree
  refine ⟨v, parsed, run_submit asked holds parsed hub, fun reprints fits => ?_,
    fun reprints => posts_posting parsed reprints decoded, fun oversized => ?_, ?_⟩
  · exact alike_of_posts (posts_submission reprints decoded fits) posts rfl
      (hub.compile_preset table afterSelect e).symm
  · have answered : hub.respond client.arrival (submission table afterSelect v) =
        (.refusal .bodyTooLarge, hub) :=
      hub.respond_unread client.arrival rfl routed_conditions (Request.read_oversized rfl oversized)
    exact ⟨congrArg Prod.fst answered, congrArg Prod.snd answered⟩
  · rintro rfl rfl
    exact hub.preset_self

/-- The condition that there is no price. -/
def nullPriceText : String := "[\"is_null\", [\"store_variable\", \"S\", \"price\", \"int\"]]"

/-- A client with a file that holds the condition. -/
def nullPriceClient : Client where
  files path := if path = "tree.json" then .ok nullPriceText.toUTF8 else .error .missing
  input := .error .notUtf8
  arrival := ⟨"1", "now", 0⟩

/-- The text of the file is posted as the condition. -/
def nullPricePost : Visit := ⟨⟨"2", "later", 1⟩, posting nullPriceText⟩

def nullPrice : Expr := .isNull (.storeVariable "S" "price" .int)

def isNullPrice : Expr → Bool
  | .isNull (.storeVariable storeId attr .int) => storeId == "S" && attr == "price"
  | _ => false

theorem eq_nullPrice {e : Expr} (same : isNullPrice e = true) : e = nullPrice := by
  unfold isNullPrice at same
  split at same
  · simp only [Bool.and_eq_true, beq_iff_eq] at same
    obtain ⟨rfl, rfl⟩ := same
    rfl
  · contradiction

theorem parse_nullPriceText : Expr.parse nullPriceText = .ok nullPrice := by
  obtain ⟨e, parsed, same⟩ := exists_ok_of_any (x := Expr.parse nullPriceText) (p := isNullPrice)
    (by decide +kernel)
  rw [← eq_nullPrice same]
  exact parsed

theorem posts_nullPricePost : nullPricePost.request.Posts .conditions ⟨none, none, nullPrice⟩ := by
  obtain ⟨v, parsed, decoded⟩ := Expr.exists_of_parse parse_nullPriceText
  obtain ⟨w, parsed', reprints⟩ := exists_ok_of_any (x := Json.parse nullPriceText)
    (p := fun v => decide (v.Reprints 126)) (by decide +kernel)
  obtain rfl : v = w := Except.ok.inj (parsed.symm.trans parsed')
  exact posts_posting parsed (of_decide_eq_true reprints) decoded (by decide +kernel)

theorem run_submit_alike_nullPrice :
    let hub := start ⟨1024, some "T", "S", true⟩
    Invocation.read? ["submit", "tree.json"] = some (.run (.submit none false "tree.json")) ∧
    nullPriceClient.text "tree.json" = .ok nullPriceText ∧
    Expr.parse nullPriceText = .ok nullPrice ∧
    nullPricePost.request.Posts .conditions ⟨none, none, nullPrice⟩ ∧
    ∃ v, Json.parse nullPriceText = .ok v ∧ v.Reprints 126 ∧
      (run nullPriceClient.environment ["submit", "tree.json"]).run hub =
        (.ofReply (.ofResponse (hub.answer ⟨nullPriceClient.arrival, submission none false v⟩)),
          hub.next ⟨nullPriceClient.arrival, submission none false v⟩) ∧
      Alike hub (hub.preset none false) ⟨nullPriceClient.arrival, submission none false v⟩
        nullPricePost ∧
      (hub.answer ⟨nullPriceClient.arrival, submission none false v⟩).status = .created := by
  intro hub
  have asked : Invocation.read? ["submit", "tree.json"] =
      some (.run (.submit none false "tree.json")) := by decide +kernel
  have holds : nullPriceClient.text "tree.json" = .ok nullPriceText := by
    obtain ⟨text, holds, same⟩ := exists_ok_of_any (x := nullPriceClient.text "tree.json")
      (p := (· == nullPriceText)) (by decide +kernel)
    rw [holds, beq_iff_eq.1 same]
  obtain ⟨v, parsed, shown, alike, -⟩ := run_submit_alike hub nullPriceClient nullPricePost asked
    holds parse_nullPriceText posts_nullPricePost
  obtain ⟨w, parsed', checked⟩ := exists_ok_of_any (x := Json.parse nullPriceText)
    (p := fun v => decide (v.Reprints 126) &&
      decide ((submission none false v).body.size ≤ maxBodySize) &&
      decide ((hub.answer ⟨nullPriceClient.arrival, submission none false v⟩).status = .created))
    (by decide +kernel)
  obtain rfl : v = w := Except.ok.inj (parsed.symm.trans parsed')
  simp only [Bool.and_eq_true, decide_eq_true_eq] at checked
  obtain ⟨⟨reprints, fits⟩, created⟩ := checked
  exact ⟨asked, holds, parse_nullPriceText, posts_nullPricePost, v, parsed, reprints, shown,
    alike reprints fits, created⟩

/-- The statement that an answer gives. -/
def queryOf (response : Response) : Option String :=
  match response.body with
  | .document v => (v.get? "query").bind Json.string?
  | _ => none

theorem Alike.query_eq (alike : Alike hub hub' visit visit') :
    queryOf (hub.answer visit) = queryOf (hub'.answer visit') := by
  cases alike with
  | stored e c answer answer' =>
    rw [answer, answer']
    rfl
  | refused r answer answer' => rw [answer, answer']

/-- On a hub that is configured for conditions after a projection, the one that is posted alone is
compiled as such, and the one that is submitted is not. -/
theorem submit_ignores_afterSelect :
    ∃ config, HubConfig.parse? "[compiler]\ndefault_table = \"T\"\nafter_select = true\n" =
        some config ∧
      ∃ v, Json.parse nullPriceText = .ok v ∧
        ¬ Alike (start config) (start config)
          ⟨nullPriceClient.arrival, submission none false v⟩ nullPricePost := by
  refine ⟨⟨1024, some "T", "S", true⟩, by decide +kernel, ?_⟩
  obtain ⟨v, parsed, differ⟩ := exists_ok_of_any (x := Json.parse nullPriceText)
    (p := fun v =>
      queryOf ((start ⟨1024, some "T", "S", true⟩).answer
        ⟨nullPriceClient.arrival, submission none false v⟩) ==
          some "SELECT * FROM T WHERE T.price IS NULL" &&
      queryOf ((start ⟨1024, some "T", "S", true⟩).answer nullPricePost) ==
          some "SELECT * FROM T WHERE price IS NULL")
    (by decide +kernel)
  refine ⟨v, parsed, fun alike => ?_⟩
  obtain ⟨submitted, posted⟩ := Bool.and_eq_true_iff.1 differ
  have same := alike.query_eq
  rw [beq_iff_eq.1 submitted, beq_iff_eq.1 posted] at same
  exact absurd same (by decide +kernel)

end Hub
end ConditionQuery
