import Retrieval.Proofs.Http.Reply
import Retrieval.Proofs.Json.Number
import Retrieval.Proofs.Outcome
import Retrieval.Remote.Service

/-!
# Calls of services

A call gives what the reply gives that is reached in the end, and a failure of it
is one of the transport.  The value or the objection is the one that the whole
reply calls for, unless the reply hides something.
-/

namespace Retrieval

open Http (Network Reply Request Url)

namespace Http.Network

theorem reach_of_exchange {network after : Network} {request : Request} {reply : Reply}
    (exchanged : network.exchange request = (some reply, after))
    (stays : reply.destination? request.url = none) (key : Option String) (limit : Nat) :
    network.reach key limit request = (some reply, after) := by
  rw [reach.eq_def, exchanged]
  dsimp only
  rw [stays]

end Http.Network

namespace Service

section Reached

variable {service : Service} {body : Json} {network after : Network} {request : Request}
  {reply : Reply}

theorem call_of_reach (asked : Request.to? service.address service.key body = some request)
    (reached : network.reach request.key Network.redirectionLimit request = (some reply, after)) :
    service.call body network = ((reply.json service.address).mapError .transport, after) := by
  unfold call
  rw [asked]
  dsimp only
  rw [reached]

theorem transport_of_call_error {failure : Failure}
    (failed : (service.call body network).1 = .error failure) :
    ∃ fault, failure = .transport fault := by
  unfold call at failed
  dsimp only at failed
  split at failed
  · cases failed
    exact ⟨_, rfl⟩
  · split at failed
    · cases failed
      exact ⟨_, rfl⟩
    · obtain ⟨fault, -, rfl⟩ := mapError_error_iff.mp failed
      exact ⟨fault, rfl⟩

/-- What a call gives for a reply, with a failure of the transport for an objection. -/
def Gives (service : Service) (reply : Reply) (outcome : Except Failure Json) : Prop :=
  ∃ given, reply.Gives service.address given ∧ outcome = given.mapError .transport

theorem gives_iff {given : Except TransportFault Json} :
    service.Gives reply (given.mapError .transport) ↔ reply.Gives service.address given := by
  refine ⟨?_, fun gives => ⟨given, gives, rfl⟩⟩
  rintro ⟨other, gives, same⟩
  have equal : given = other := by
    cases given <;> cases other <;> cases same <;> rfl
  exact equal ▸ gives

/-- However a call ends, it fails with the transport if it fails, and a value comes from the JSON
body of a reply that succeeded.  For a reply that is reached it gives the value or reports the
first objection, exactly unless the reply hides one: in a type that is not plain text, or in a
transfer encoding that is not on the first line or not plain text. -/
theorem call_gives_iff (asked : Request.to? service.address service.key body = some request)
    (reached : network.reach request.key Network.redirectionLimit request = (some reply, after)) :
    (service.Gives reply (service.call body network).1 ↔ ¬ reply.Hides) ∧
      (∀ failure, (service.call body network).1 = .error failure →
        ∃ fault, failure = .transport fault) ∧
      ∀ value, (service.call body network).1 = .ok value →
        Http.isSuccess reply.status = true ∧ Json.readPlain? reply.body = some value := by
  have called := call_of_reach asked reached
  refine ⟨?_, fun failure failed => transport_of_call_error failed, ?_⟩
  · rw [called, gives_iff]
    exact Reply.gives_json_iff
  · intro value taken
    rw [called] at taken
    exact Reply.json_ok (mapError_ok_iff.mp taken)

end Reached

/-! ## A service on the same machine -/

/-- A service at the root of the local host, which is given by its number. -/
def loopback : Service := ⟨"http://[::1]", "key"⟩

def loopbackUrl : Url := ⟨false, .groups [0, 0, 0, 0, 0, 0, 0, 1], 80, [""], none⟩

def loopbackRequest (body : Json) : Request := ⟨loopbackUrl, some loopback.key, some body⟩

theorem located?_loopback :
    Url.located? false ['[', ':', ':', '1', ']'] = some loopbackUrl := by
  have authority : Url.authority? 80 ['[', ':', ':', '1', ']'] =
      some (loopbackUrl.host, 80) := by decide +kernel
  have rooted : Url.resolve [] [[]] = [""] := by
    rw [Url.resolve]
    split
    · rfl
    · split <;> rfl
  change (Url.authority? 80 ['[', ':', ':', '1', ']']).bind (fun read =>
    some (Url.mk false read.1 read.2 (Url.resolve [] [[]]) none)) = some loopbackUrl
  rw [authority, rooted]
  rfl

theorem read?_loopback : Url.read? loopback.address = some loopbackUrl := by
  have scheme : Url.scheme? (Url.withoutFragment (Url.tidied loopback.address)) =
      some ("http", ['/', '/', '[', ':', ':', '1', ']']) := by decide +kernel
  have secure : Url.secureScheme? "http" = some false := by decide +kernel
  rw [Url.read?, scheme]
  change (Url.secureScheme? "http").bind (Url.located? · ['[', ':', ':', '1', ']']) = _
  rw [secure]
  exact located?_loopback

theorem to?_loopback (body : Json) :
    Request.to? loopback.address loopback.key body = some (loopbackRequest body) := by
  have fit : (loopbackUrl.isAskable (Url.fragmentLength (Url.tidied loopback.address)) &&
      loopback.key.toList.all Http.Field.isLetter) = true := by decide +kernel
  rw [Request.to?, read?_loopback]
  change (if (loopbackUrl.isAskable (Url.fragmentLength (Url.tidied loopback.address)) &&
      loopback.key.toList.all Http.Field.isLetter) = true then some (loopbackRequest body)
    else none) = _
  rw [if_pos fit]

/-- The service gives the reply that the network holds ready, if that does not point elsewhere. -/
theorem reach_loopback (body : Json) {reply : Reply}
    (stays : Reply.isRedirection reply.status = false) (pending : List (Option Reply))
    (sent : List Request) :
    Network.reach (loopbackRequest body).key Network.redirectionLimit (loopbackRequest body)
        ⟨some reply :: pending, sent⟩ =
      (some reply, ⟨pending, sent ++ [loopbackRequest body]⟩) := by
  refine Network.reach_of_exchange rfl ?_ _ _
  rw [Reply.destination?, stays]
  rfl

/-! ## Lines of transfer encodings -/

/-- The encodings on one line, chunks behind another one. -/
def encodedOnce : Reply := ⟨200, [("TRANSFER-ENCODING", "gzip, Chunked")], "[]"⟩

/-- The same encodings on two lines. -/
def encodedTwice : Reply :=
  ⟨200, [("Transfer-Encoding", "gzip"), ("transfer-encoding", "Chunked")], "[]"⟩

theorem not_hides_encodedOnce : ¬ encodedOnce.Hides := by
  have untyped : encodedOnce.type? = none := by
    unfold Reply.type?
    decide +kernel
  have seen : encodedOnce.isChunked = true := by decide +kernel
  rintro ⟨-, ⟨stream, -⟩ | ⟨-, hidden⟩⟩
  · exact Reply.not_isStream_of_untyped untyped stream
  · exact (Reply.hidesChunks_iff.mp hidden).2 seen

theorem hides_encodedTwice : encodedTwice.Hides := by
  have untyped : encodedTwice.type? = none := by
    unfold Reply.type?
    decide +kernel
  have unseen : ¬ encodedTwice.isChunked = true := by decide +kernel
  have mentioned : Reply.MentionsChunks "Chunked" := by
    unfold Reply.MentionsChunks
    decide +kernel
  have chunks : encodedTwice.HasChunks := by
    refine ⟨"Chunked", ?_, mentioned⟩
    unfold Reply.encodings
    decide +kernel
  exact ⟨rfl, .inr ⟨Reply.not_isStream_of_untyped untyped,
    Reply.hidesChunks_iff.mpr ⟨chunks, unseen⟩⟩⟩

/-- Chunks are reported on the first line and overlooked on the second one. -/
theorem call_gives_iff_of_encodings :
    loopback.Gives encodedOnce (loopback.call .null ⟨[some encodedOnce], []⟩).1 ∧
      ¬ loopback.Gives encodedTwice (loopback.call .null ⟨[some encodedTwice], []⟩).1 := by
  obtain ⟨once, -⟩ := call_gives_iff (to?_loopback .null)
    (@reach_loopback .null encodedOnce rfl [] [])
  obtain ⟨twice, -⟩ := call_gives_iff (to?_loopback .null)
    (@reach_loopback .null encodedTwice rfl [] [])
  exact ⟨once.mpr not_hides_encodedOnce, fun gives => twice.mp gives hides_encodedTwice⟩

/-- Not every reply whose transfer encodings mention chunks is refused. -/
theorem chunked_reply_may_be_taken :
    ¬ ∀ (service : Service) (body : Json) (network after : Network) (request : Request)
        (reply : Reply), Request.to? service.address service.key body = some request →
      network.reach request.key Network.redirectionLimit request = (some reply, after) →
      service.Gives reply (service.call body network).1 := by
  intro keeping
  have reached := @reach_loopback .null encodedTwice rfl [] []
  have gives := keeping loopback .null _ _ _ encodedTwice (to?_loopback .null) reached
  rw [call_of_reach (to?_loopback .null) reached, gives_iff] at gives
  exact Reply.gives_json_iff.mp gives hides_encodedTwice

end Service

end Retrieval
