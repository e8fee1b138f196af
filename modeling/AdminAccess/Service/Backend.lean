import AdminAccess.Client
import AdminAccess.Model.GlobalInfo

/-!
# The backend's cache and counters
-/

namespace AdminAccess

namespace Cache

def endpoint : String := "CacheService"

def flushOperation : Operation := ⟨endpoint, "flushAndClear", .put, "/cache/flush"⟩

def isEnabledOperation : Operation := ⟨endpoint, "isEnabled", .get, "/cache/enabled"⟩

def toggleOperation : Operation := ⟨endpoint, "toggle", .put, "/cache/toggle"⟩

def flush : ApiCall Unit := ⟨flushOperation, .empty, .success⟩

def isEnabled : ApiCall Bool := ⟨isEnabledOperation, .empty, .data .bool⟩

/-- Turn the cache on or off; the answer is the new state. -/
def toggle : ApiCall Bool := ⟨toggleOperation, .empty, .data .bool⟩

end Cache

namespace GlobalInfo

def endpoint : String := "GlobalInfoService"

def getOperation : Operation := ⟨endpoint, "getGlobalInfo", .get, "/global_info"⟩

def get : ApiCall GlobalInfo := ⟨getOperation, .empty, .data GlobalInfo.shape⟩

end GlobalInfo

end AdminAccess
