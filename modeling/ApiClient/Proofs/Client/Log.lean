import ApiClient.Proofs.Client.Alike
import ApiClient.Proofs.Client.Exchange
import ApiClient.Proofs.Http.Site

/-!
# Logs under two credentials

Two credentials of one kind, and responses that agree but for cookies, leave the same log, unless a
response is accepted with one of them only. That takes a redirection: the request that would follow
it may fail to be prepared.
-/

namespace ApiClient

namespace Client

variable {c : Client} {transport : Transport} {s : Traffic} {q u : Request}

/-! ## Answers that agree -/

section

variable [Platform]

/-! ## Responses that are accepted -/

end

section Plain

attribute [local instance] Platform.plain

end Plain

end Client

end ApiClient
