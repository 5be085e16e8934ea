import MarketSupport.State.AuditRecords

/-!
# Provider failures

The closed set of failure codes of a provider call, and the code under which an exception of
the transport is surfaced.
-/

namespace MarketSupport

inductive ProviderFailureCodeV1 where
  | providerOutputMissing
  | providerOutputType
  | providerOutputEncoding
  | providerOutputTooLarge
  | providerOutputContract
  | providerTimeout
  | providerAuthFailed
  | providerRateLimited
  | providerHttpError
  | providerTransportUnavailable
  | providerInternalError
  | directProviderStdioViolation
  deriving DecidableEq, Repr

namespace ProviderFailureCodeV1

/-- The literal of a code. -/
def text : ProviderFailureCodeV1 → String
  | .providerOutputMissing => "provider_output_missing"
  | .providerOutputType => "provider_output_type"
  | .providerOutputEncoding => "provider_output_encoding"
  | .providerOutputTooLarge => "provider_output_too_large"
  | .providerOutputContract => "provider_output_contract"
  | .providerTimeout => "provider_timeout"
  | .providerAuthFailed => "provider_auth_failed"
  | .providerRateLimited => "provider_rate_limited"
  | .providerHttpError => "provider_http_error"
  | .providerTransportUnavailable => "provider_transport_unavailable"
  | .providerInternalError => "provider_internal_error"
  | .directProviderStdioViolation => "direct_provider_stdio_violation"

/-- The error code under which the audit records the failure. -/
def audit : ProviderFailureCodeV1 → AuditErrorCodeV1
  | .providerOutputMissing => .providerOutputMissing
  | .providerOutputType => .providerOutputType
  | .providerOutputEncoding => .providerOutputEncoding
  | .providerOutputTooLarge => .providerOutputTooLarge
  | .providerOutputContract => .providerOutputContract
  | .providerTimeout => .providerTimeout
  | .providerAuthFailed => .providerAuthFailed
  | .providerRateLimited => .providerRateLimited
  | .providerHttpError => .providerHttpError
  | .providerTransportUnavailable => .providerTransportUnavailable
  | .providerInternalError => .providerInternalError
  | .directProviderStdioViolation => .directProviderStdioViolation

/-- `is_provider_output_failure`. -/
def isOutputFailure : ProviderFailureCodeV1 → Bool
  | .providerOutputMissing | .providerOutputType | .providerOutputEncoding |
    .providerOutputTooLarge | .providerOutputContract => true
  | _ => false

theorem isTransport_audit (code : ProviderFailureCodeV1) :
    code.audit.isTransport = !code.isOutputFailure := by
  cases code <;> rfl

theorem isOutputContract_audit (code : ProviderFailureCodeV1) :
    code.audit.isOutputContract = code.isOutputFailure := by
  cases code <;> rfl

theorem length_text_le (code : ProviderFailureCodeV1) : code.text.length ≤ 80 := by
  cases code <;> decide

end ProviderFailureCodeV1

/-- `_HTTP_FAILURE_CODES`, with its default. -/
def providerHttpFailureCode (statusCode : ℤ) : ProviderFailureCodeV1 :=
  if statusCode = 401 ∨ statusCode = 403 then .providerAuthFailed
  else if statusCode = 429 then .providerRateLimited
  else .providerHttpError

/-- `_EXCEPTION_FAILURE_CODES`. -/
def exceptionFailureCodes : List (String × ProviderFailureCodeV1) :=
  [("AuthenticationError", .providerAuthFailed), ("PermissionDeniedError", .providerAuthFailed),
   ("RateLimitError", .providerRateLimited), ("APITimeoutError", .providerTimeout),
     ("ConnectTimeout", .providerTimeout),
   ("PoolTimeout", .providerTimeout), ("ReadTimeout", .providerTimeout),
     ("TimeoutException", .providerTimeout),
   ("WriteTimeout", .providerTimeout), ("APIConnectionError", .providerTransportUnavailable),
   ("ConnectError", .providerTransportUnavailable),
     ("ConnectionError", .providerTransportUnavailable),
   ("RequestError", .providerTransportUnavailable),
     ("ServiceUnavailableError", .providerTransportUnavailable),
   ("APIStatusError", .providerHttpError), ("HTTPStatusError", .providerHttpError),
   ("InternalServerError", .providerHttpError)]

/-- The base classes that the handlers tell apart. -/
inductive ExceptionBase where
  | runtimeError | valueError | typeError | attributeError | keyError | other
  deriving DecidableEq, Repr

/-- What the handlers read of an exception that is no `ProviderInvocationError` and no
`TimeoutError`. -/
structure RaisedException where
  base : ExceptionBase
  typeName : String
  /-- The status code of the exception or of its response. -/
  statusCode : Option ℤ
  deriving DecidableEq, Repr

/-- `provider_failure_code_from_exception`. -/
def providerFailureCodeFromException (e : RaisedException) : ProviderFailureCodeV1 :=
  match e.statusCode with
  | some statusCode => providerHttpFailureCode statusCode
  | none => (exceptionFailureCodes.lookup e.typeName).getD .providerTransportUnavailable

end MarketSupport
