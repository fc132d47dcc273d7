import EtcdClient.Version.Basic

/-
# Features

Parts of the protocol that only newer servers understand, each with the first version that has it.

Source: `SPEC_FULL.md` §10.7, `Feature` with `since`.
-/

namespace EtcdClient

/-- What a request may use that an older server lacks. -/
inductive Feature
  | putPrevKv
  | deletePrevKv
  | watchPrevKv
  | watchFilters
  | leaseTimeToLive
  | putIgnoreValue
  | putIgnoreLease
  | leaseLeases
  deriving DecidableEq

namespace Feature

/-- All features. -/
def all : List Feature :=
  [putPrevKv, deletePrevKv, watchPrevKv, watchFilters, leaseTimeToLive, putIgnoreValue,
    putIgnoreLease, leaseLeases]

/-- The feature in words. -/
def text : Feature → String
  | putPrevKv => "put prev_kv"
  | deletePrevKv => "delete prev_kv"
  | watchPrevKv => "watch prev_kv"
  | watchFilters => "watch filters"
  | leaseTimeToLive => "lease time-to-live"
  | putIgnoreValue => "put ignore_value"
  | putIgnoreLease => "put ignore_lease"
  | leaseLeases => "lease listing"

/-- The first version that has the feature. -/
def since : Feature → Version
  | putPrevKv | deletePrevKv => ⟨3, 0, 11, none⟩
  | watchPrevKv => ⟨3, 0, 12, none⟩
  | watchFilters | leaseTimeToLive => ⟨3, 1, 0, some "alpha.0"⟩
  | putIgnoreValue | putIgnoreLease => ⟨3, 2, 0, some "rc.0"⟩
  | leaseLeases => ⟨3, 3, 0, none⟩

end Feature
end EtcdClient
