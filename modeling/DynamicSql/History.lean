/-!
# Calls to a cache

A cache is asked for what belongs to a key, and told now and then to forget
everything.  What is said of a cache is said in terms of the calls alone: which keys
were requested since it was cleared last, and which before that.
-/

namespace DynamicSql

/-- What a cache is asked to do. -/
inductive CacheCall (κ : Type)
  | request (key : κ)
  | clear

/-- Whether a call is a request. -/
def CacheCall.isRequest {κ : Type} : CacheCall κ → Bool
  | request _ => true
  | clear => false

/-- The keys requested so far. -/
structure History (κ : Type) where
  /-- Those since the last clear, the latest first. -/
  recent : List κ
  /-- Those between one clear and the next. -/
  earlier : List (List κ)

namespace History

variable {κ : Type}

/-- Nothing has been requested yet. -/
def empty : History κ := ⟨[], []⟩

/-- Take note of one more call. -/
def note (history : History κ) : CacheCall κ → History κ
  | .request key => { history with recent := key :: history.recent }
  | .clear => ⟨[], history.recent :: history.earlier⟩

/-- The history that calls make. -/
def ofCalls (calls : List (CacheCall κ)) : History κ := calls.foldl note empty

end History

end DynamicSql
