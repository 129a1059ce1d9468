import Backlog.Proofs.BatchRun
import Backlog.Proofs.Bytes
import Backlog.Proofs.JsonForms
import Backlog.Tracker
/-!
Drafts, requests and replies in step. A tracker can form no request at all, or one for each draft,
all for one address. The peer at this address is asked once for each draft, in order, and each answer
comes from its own draft and its own reply; no other peer is asked.

- `Http.Reply.Opens`: a reply that tells of an opened issue;
- `Tracker.request_cases`: a request for each draft, or for none;
- `Tracker.create_asked`, `Tracker.asked_drafts`: one draft handed over, and a list of them;
- `Tracker.Reaches`, `Tracker.after_received`: the peer that a tracker asks, and what it has got.
-/
namespace Backlog
set_option autoImplicit false

/-! ## Replies -/

namespace Http

/-- A reply that tells of an opened issue: the status that arrives is a success, and the body that
arrives reads as the issue. -/
def Reply.Opens (reply : Reply) (issue : Issue) : Prop :=
  ∃ (message : Message) (body : Text), reply.message? = some message ∧ 200 ≤ message.status ∧
    message.status ≤ 299 ∧ message.text? = some body ∧ Json.decode Issue.ofJson? body = .ok issue

theorem isSuccess_iff {status : Nat} : isSuccess status = true ↔ 200 ≤ status ∧ status ≤ 299 := by
  simp only [isSuccess, Bool.and_eq_true, decide_eq_true_eq]
  omega

/-- What arrives of a reply that is no announcement: its own status, and its own body unless the
status has none. -/
theorem message_answered {status : Nat} (body : Text)
    (final : Message.isAnnouncement status = false) (success : 200 ≤ status ∧ status ≤ 299) :
    (Reply.answered status body).message? =
      some ⟨status, some (Text.utf8 (if status = 204 then [] else body))⟩ := by
  rw [Reply.message?, final, if_neg Bool.false_ne_true]
  by_cases silent : status = 204
  · rw [if_pos (.inr (.inl silent)), if_pos silent]
    rfl
  · rw [if_neg (by omega), if_pos (by omega), if_neg silent]

theorem message_status {status : Nat} {body : Text} {message : Message}
    (final : Message.isAnnouncement status = false)
    (arrived : (Reply.answered status body).message? = some message) : message.status = status := by
  rw [Reply.message?, final, if_neg Bool.false_ne_true] at arrived
  split_ifs at arrived
  · rw [← Option.some.inj arrived]
  · rw [← Option.some.inj arrived]

theorem opens_answered {status : Nat} {body : Text} {issue : Issue}
    (final : Message.isAnnouncement status = false) :
    (Reply.answered status body).Opens issue ↔ 200 ≤ status ∧ status ≤ 299 ∧
      Json.decode Issue.ofJson? (if status = 204 then [] else body) = .ok issue := by
  have text (t : Text) : Message.text? ⟨status, some (Text.utf8 t)⟩ = some t := Text.of_utf8_utf8 t
  constructor
  · rintro ⟨message, shown, arrived, low, high, read, opened⟩
    have own := message_status final arrived
    rw [own] at low high
    rw [message_answered body final ⟨low, high⟩] at arrived
    rw [← Option.some.inj arrived, text] at read
    rw [Option.some.inj read]
    exact ⟨low, high, opened⟩
  · rintro ⟨low, high, opened⟩
    exact ⟨_, _, message_answered body final ⟨low, high⟩, low, high, text _, opened⟩

end Http

namespace Tracker

theorem issue_iff {body : Text} {issue : Issue} :
    issue? body = some issue ↔ Json.decode Issue.ofJson? body = .ok issue := by
  unfold issue?
  cases Json.decode Issue.ofJson? body <;> simp [Except.toOption]

theorem issue_of_iff (url : Http.Url) {reply : Http.Reply} {issue : Issue} :
    issueOf url reply = .ok issue ↔ reply.Opens issue := by
  unfold issueOf Http.Reply.Opens
  cases reply.message? with
  | none => simp
  | some message =>
    have shown : (∃ body : Text, message.text? = some body ∧
        Json.decode Issue.ofJson? body = .ok issue) ↔ message.text?.bind issue? = some issue := by
      simp only [Option.bind_eq_some_iff, issue_iff]
    dsimp only
    constructor
    · intro h
      split at h
      next success =>
        obtain ⟨low, high⟩ := Http.isSuccess_iff.1 success
        split at h
        next found read =>
          obtain rfl := Except.ok.inj h
          obtain ⟨body, text, opened⟩ := shown.2 read
          exact ⟨message, body, rfl, low, high, text, opened⟩
        next => exact absurd h (by simp)
      next => exact absurd h (by simp)
    · rintro ⟨_, body, ⟨rfl⟩, low, high, text, opened⟩
      rw [if_pos (Http.isSuccess_iff.2 ⟨low, high⟩), shown.1 ⟨body, text, opened⟩]

/-! ## Requests -/

theorem scheme_asked {url : Http.Url} (h : url.canBeAsked = true) :
    url.scheme = "http".toList ∨ url.scheme = "https".toList := by
  simp only [Http.Url.canBeAsked, Bool.and_eq_true, Bool.or_eq_true, beq_iff_eq] at h
  exact h.1.1

/-- The parts of a request that are the same for all drafts; or why none can be formed. -/
theorem request_uniform (t : Tracker) :
    (∃ reason : Text, ∀ draft : Draft, t.request? draft = .error reason) ∨
      ∃ (url : Http.Url) (head : Http.Request), url.canBeAsked = true ∧ head.method = "POST" ∧
        ∀ draft : Draft, t.request? draft =
          .ok (url, { head with body := draft.toJson.render .compact }) := by
  unfold request?
  cases Http.Url.parse? t.issuesUrl with
  | none => exact .inl ⟨_, fun _ => rfl⟩
  | some url =>
    dsimp only
    split_ifs with hostless unfit refused
    · exact .inl ⟨_, fun _ => rfl⟩
    · exact .inl ⟨_, fun _ => rfl⟩
    · exact .inl ⟨_, fun _ => rfl⟩
    · exact .inr ⟨_, ⟨_, _, _, _, _, _, []⟩, by simpa using refused, rfl, fun _ => rfl⟩

theorem request_reads {t : Tracker} {draft : Draft} {url : Http.Url} {request : Http.Request}
    (formed : t.request? draft = .ok (url, request)) :
    Json.decode Draft.ofJson? request.body = .ok { draft with storyId := [] } := by
  obtain ⟨reason, unformed⟩ | ⟨own, head, -, -, all⟩ := t.request_uniform
  · rw [unformed] at formed
    exact absurd formed (by simp)
  · rw [all] at formed
    obtain ⟨-, rfl⟩ := Prod.mk.inj (Except.ok.inj formed)
    exact draft.decode_toJson Json.Layout.compact_blank

/-- No request can be formed, whatever the draft is, or there is one for each draft, all for one
address; and the body of each reads as its draft. -/
theorem request_cases (t : Tracker) :
    (∃ reason : Text, ∀ draft : Draft, t.request? draft = .error reason) ∨
      ∃ (url : Http.Url) (request : Draft → Http.Request),
        (url.scheme = "http".toList ∨ url.scheme = "https".toList) ∧
        ∀ draft : Draft, t.request? draft = .ok (url, request draft) ∧
          (request draft).method = "POST" ∧
          Json.decode Draft.ofJson? (request draft).body = .ok { draft with storyId := [] } := by
  obtain unformed | ⟨url, head, allowed, post, formed⟩ := t.request_uniform
  · exact .inl unformed
  · exact .inr ⟨url, fun draft => { head with body := draft.toJson.render .compact },
      scheme_asked allowed, fun draft => ⟨formed draft, post, request_reads (formed draft)⟩⟩

/-! ## Answers -/

theorem answer_iff {draft : Draft} {url : Http.Url} {reply : Http.Reply} {issue : Issue} :
    answer draft (issueOf url reply) = .ok (some issue) ↔ reply.Opens issue := by
  rw [← issue_of_iff url]
  cases issueOf url reply <;> simp [answer]

theorem answer_cases (draft : Draft) (found : Except Text Issue) :
    (∃ issue : Issue, answer draft found = .ok (some issue)) ∨
      ∃ reason : Text, answer draft found = .error (.publishFailed draft.storyId reason) := by
  cases found with
  | ok issue => exact .inl ⟨issue, rfl⟩
  | error reason => exact .inr ⟨reason, rfl⟩

theorem create_unformed {t : Tracker} {draft : Draft} {reason : Text}
    (unformed : t.request? draft = .error reason) (peer : Http.Peer) :
    t.create draft peer =
      (.error (.publishFailed draft.storyId ("request failed: " ++ reason)), peer) := by
  rw [create, unformed]
  rfl

section Exchange
variable {t : Tracker} {url : Http.Url}

theorem create_asked {draft : Draft} {request : Http.Request}
    (formed : t.request? draft = .ok (url, request)) {peer : Http.Peer}
    (here : peer.origin = url.origin) :
    t.create draft peer =
      (answer draft (issueOf url (peer.receive request).1), (peer.receive request).2) := by
  rw [create, formed]
  exact if_pos here.symm

/-- A peer at another origin is not asked, and the answer is as if the connection were dropped. -/
theorem create_elsewhere {draft : Draft} {request : Http.Request}
    (formed : t.request? draft = .ok (url, request)) {peer : Http.Peer}
    (elsewhere : peer.origin ≠ url.origin) :
    t.create draft peer = (answer draft (issueOf url .dropped), peer) := by
  rw [create, formed]
  exact if_neg elsewhere.symm

/-! ## Lists of drafts -/

/-- The reply to the request with this number. When no reply is left, the server fails. -/
def replyTo (replies : List Http.Reply) (i : Nat) : Http.Reply :=
  (replies[i]?).getD (.answered 500 [])

variable {request : Draft → Http.Request}

/-- Each draft is one request, and its answer is made from the reply with the same number. -/
theorem asked_drafts (formed : ∀ draft : Draft, t.request? draft = .ok (url, request draft))
    (drafts : List Draft) {peer : Http.Peer} (here : peer.origin = url.origin) :
    (t.publisher.after drafts peer).received = peer.received ++ drafts.map request ∧
      ∀ (i : Nat) (draft : Draft), drafts[i]? = some draft →
        (t.publisher.answers drafts peer)[i]? =
          some (answer draft (issueOf url (replyTo peer.replies i))) := by
  induction drafts generalizing peer with
  | nil => exact ⟨(List.append_nil _).symm, fun i draft h => absurd h (by simp)⟩
  | cons first drafts ih =>
    -- The first draft takes the first reply, so that the others meet the replies one place on.
    have made : t.publisher.create first peer =
        (answer first (issueOf url (replyTo peer.replies 0)),
          (peer.receive (request first)).2) := by
      rw [replyTo, ← List.head?_eq_getElem?]
      exact create_asked (formed first) here
    have there : (peer.receive (request first)).2.origin = url.origin := here
    obtain ⟨sent, answered⟩ := ih there
    refine ⟨?_, fun i draft h => ?_⟩
    · rw [Publisher.after, List.foldl_cons, made, ← Publisher.after, sent, Http.Peer.receive,
        List.append_assoc, List.map_cons, List.singleton_append]
    · rw [Publisher.answers, made]
      cases i with
      | zero =>
        obtain rfl : first = draft := by simpa using h
        rfl
      | succ i =>
        rw [List.getElem?_cons_succ, answered i draft (by simpa using h), replyTo, replyTo,
          Http.Peer.receive, List.getElem?_tail]

end Exchange

/-- Drafts handed over to a tracker. It may be that its requests cannot be formed: then no peer is
ever asked and every draft fails for one reason. Otherwise there is one request for each draft, made
from the draft alone and all for one address of the web, and its body reads as the draft. The peer
at this address is asked with exactly these requests, in the order of the drafts and whatever its
replies are. The answer is made from the draft and the reply with the same number: it is the issue
that the reply tells of, or else a failure that names the story. A peer anywhere else is not asked,
and the drafts fail as if it had dropped the connection. -/
theorem drafts_and_replies_in_step (t : Tracker) :
    (∃ reason : Text, (∀ draft : Draft, t.request? draft = .error reason) ∧
      ∀ (drafts : List Draft) (peer : Http.Peer), t.publisher.after drafts peer = peer ∧
        t.publisher.answers drafts peer = drafts.map fun draft =>
          .error (.publishFailed draft.storyId ("request failed: " ++ reason))) ∨
    ∃ (url : Http.Url) (request : Draft → Http.Request) (result : Draft → Http.Reply → Answer),
      (url.scheme = "http".toList ∨ url.scheme = "https".toList) ∧
      (∀ draft : Draft, t.request? draft = .ok (url, request draft) ∧
        (request draft).method = "POST" ∧
        Json.decode Draft.ofJson? (request draft).body = .ok { draft with storyId := [] }) ∧
      (∀ (draft : Draft) (reply : Http.Reply),
        (∀ issue : Issue, result draft reply = .ok (some issue) ↔ reply.Opens issue) ∧
          ((∃ issue : Issue, result draft reply = .ok (some issue)) ∨
            ∃ reason : Text, result draft reply = .error (.publishFailed draft.storyId reason))) ∧
      (∀ draft : Draft, ∃ reason : Text,
        result draft .dropped = .error (.publishFailed draft.storyId reason)) ∧
      (∀ (draft : Draft) (status : Nat) (body : Text) (issue : Issue),
        Http.Message.isAnnouncement status = false →
          (result draft (.answered status body) = .ok (some issue) ↔ 200 ≤ status ∧ status ≤ 299 ∧
            Json.decode Issue.ofJson? (if status = 204 then [] else body) = .ok issue)) ∧
      ∀ (drafts : List Draft) (peer : Http.Peer),
        (peer.origin = url.origin →
          (t.publisher.after drafts peer).received = peer.received ++ drafts.map request ∧
            ∀ (i : Nat) (draft : Draft), drafts[i]? = some draft →
              (t.publisher.answers drafts peer)[i]? =
                some (result draft (replyTo peer.replies i))) ∧
        (peer.origin ≠ url.origin → t.publisher.after drafts peer = peer ∧
          t.publisher.answers drafts peer = drafts.map fun draft => result draft .dropped) := by
  obtain ⟨reason, unformed⟩ | ⟨url, request, web, formed⟩ := t.request_cases
  · exact .inl ⟨reason, unformed, fun drafts peer =>
      t.publisher.untouched (fun draft => create_unformed (unformed draft) peer) drafts⟩
  · refine .inr ⟨url, request, fun draft reply => answer draft (issueOf url reply), web, formed,
      ?_, fun draft => ⟨_, rfl⟩, ?_, fun drafts peer => ⟨fun here => ?_, fun elsewhere => ?_⟩⟩
    · exact fun draft reply => ⟨fun issue => answer_iff, answer_cases draft _⟩
    · exact fun draft status body issue final => answer_iff.trans (Http.opens_answered final)
    · exact asked_drafts (fun draft => (formed draft).1) drafts here
    · exact t.publisher.untouched (fun draft => create_elsewhere (formed draft).1 elsewhere) drafts

/-- The service at its usual address, asked for two drafts: the first issue is opened and the second
request gets no reply. A peer at the same place without encryption is not asked. -/
theorem drafts_and_replies_in_step_pair :
    let t : Tracker := ⟨"https://api.github.com", "o/r", "secret"⟩
    let drafts : List Draft := [⟨"US-1", "a", "", ["x"]⟩, ⟨"US-2", "\"é\n", "b", []⟩]
    let replies : List Http.Reply :=
      [.answered 201 "\x7b\"number\":7,\"html_url\":\"u\"\x7d", .dropped]
    let peer : Http.Peer := ⟨"https://api.github.com", replies, []⟩
    let other : Http.Peer := ⟨"http://api.github.com", replies, []⟩
    (t.publisher.after drafts peer).received.length = 2 ∧
      (t.publisher.answers drafts peer)[0]? = some (.ok (some ⟨7, "u"⟩)) ∧
      (∃ reason : Text,
        (t.publisher.answers drafts peer)[1]? = some (.error (.publishFailed "US-2" reason))) ∧
      t.publisher.after drafts other = other := by
  intro t drafts replies peer other
  let url : Http.Url :=
    ⟨"https", some ⟨[], none, some (.name "api.github.com"), none⟩, "/repos/o/r/issues", none, none⟩
  have parsed : Http.Url.parse? t.issuesUrl = some url := by decide +kernel
  obtain ⟨asked, formed⟩ :
      ∃ request : Http.Request, t.request? ⟨"US-1", "a", "", ["x"]⟩ = .ok (url, request) := by
    rw [request?, parsed]
    exact ⟨_, rfl⟩
  have opened : Json.decode Issue.ofJson? "\x7b\"number\":7,\"html_url\":\"u\"\x7d".toList =
      .ok ⟨7, "u"⟩ := by decide +kernel
  obtain ⟨reason, unformed, -⟩ | ⟨url', request, result, -, all, means, dropped, final, runs⟩ :=
    drafts_and_replies_in_step t
  · exact absurd (formed.symm.trans (unformed _)) (by simp)
  obtain rfl : url = url' := (Prod.mk.inj (Except.ok.inj (formed.symm.trans (all _).1))).1
  obtain ⟨sent, answered⟩ := (runs drafts peer).1 (by decide)
  refine ⟨by rw [sent]; rfl, ?_, ?_, ((runs drafts other).2 (by decide)).1⟩
  · rw [answered 0 _ rfl]
    exact congrArg some ((final _ 201 _ _ rfl).2 ⟨by decide, by decide, opened⟩)
  · obtain ⟨reason, told⟩ := dropped ⟨"US-2", "\"é\n", "b", []⟩
    exact ⟨reason, (answered 1 _ rfl).trans (congrArg some told)⟩

/-! ## The peer that is asked -/

/-- Whether the requests of a tracker get to a peer. They are all for one address, so that any draft
tells. -/
def Reaches (t : Tracker) (peer : Http.Peer) : Prop :=
  ∃ (draft : Draft) (url : Http.Url) (request : Http.Request),
    t.request? draft = .ok (url, request) ∧ peer.origin = url.origin

/-- What a peer has got after drafts: nothing more unless the tracker reaches it, and else one
request for each, which reads as the draft. -/
theorem after_received (t : Tracker) (peer : Http.Peer) :
    (¬ t.Reaches peer ∧ ∀ drafts : List Draft, t.publisher.after drafts peer = peer) ∨
      t.Reaches peer ∧ ∃ request : Draft → Http.Request,
        (∀ draft : Draft, Json.decode Draft.ofJson? (request draft).body =
          .ok { draft with storyId := [] }) ∧
        ∀ drafts : List Draft,
          (t.publisher.after drafts peer).received = peer.received ++ drafts.map request := by
  obtain ⟨reason, unformed⟩ | ⟨url, request, -, formed⟩ := t.request_cases
  · refine .inl ⟨?_, fun drafts =>
      (t.publisher.untouched (fun draft => create_unformed (unformed draft) peer) drafts).1⟩
    rintro ⟨draft, url, request, made, -⟩
    rw [unformed] at made
    exact absurd made (by simp)
  by_cases here : peer.origin = url.origin
  · exact .inr ⟨⟨⟨[], [], [], []⟩, url, _, (formed _).1, here⟩, request,
      fun draft => (formed draft).2.2,
      fun drafts => (asked_drafts (fun draft => (formed draft).1) drafts here).1⟩
  · refine .inl ⟨?_, fun drafts =>
      (t.publisher.untouched (fun draft => create_elsewhere (formed draft).1 here) drafts).1⟩
    rintro ⟨draft, other, made, whole, there⟩
    rw [(formed draft).1] at whole
    rw [← (Prod.mk.inj (Except.ok.inj whole)).1] at there
    exact here there

end Tracker

end Backlog
