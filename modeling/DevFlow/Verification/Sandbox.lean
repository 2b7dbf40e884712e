/-
# Runs in a container

`DockerSandboxRunner.run` of `verification/sandbox.py`, from the preflight on.  Each run
has a container of its own, named after a new UUID; the name is among the details of the
execution, and nothing else of the details is new.
-/

import DevFlow.Verification.Verifier

namespace DevFlow

/-- `DockerSandboxPolicy`, by the fields that the details show; the CPUs as they are
written. -/
structure DockerSandboxPolicy where
  image : String := "devflow-verifier:py311"
  cpus : String := "1"
  memoryMb : ℕ := 512
  pidsLimit : ℕ := 128
  tmpfsMb : ℕ := 128
  network : String := "none"
deriving DecidableEq, Repr

/-- `_DockerPreflight`. -/
structure DockerPreflight where
  imageId : String
  cgroupDriver : String
deriving DecidableEq, Repr

/-- What `subprocess.run` does with the container: it ends, it is stopped at the deadline
(`cleanupError` is what `_force_remove` says), or it does not start. -/
inductive ContainerOutcome
  | completed (returncode : ℤ) (stdout stderr : String)
  | timedOut (stdout stderr cleanupError : String)
  | notStarted (error : String)
deriving DecidableEq, Repr

namespace DockerSandboxRunner

/-- The detail of a container with this name. -/
def containerDetail (containerName : String) : String :=
  "container=" ++ containerName

/-- The name of the container of a UUID. -/
def containerName (hex : String) : String :=
  "devflow-verify-" ++ hex

/-- The details of `_execution_details` behind the name of the container. -/
def policyDetails (policy : DockerSandboxPolicy) (preflight : DockerPreflight)
    (containerUser : String) : List String :=
  ["configured_image=" ++ policy.image,
    "image_id=" ++ preflight.imageId,
    "cgroup_driver=" ++ preflight.cgroupDriver,
    "entrypoint=cleared",
    "workspace=readonly",
    "rootfs=readonly",
    "network=" ++ policy.network,
    "cpus=" ++ policy.cpus,
    "memory_mb=" ++ toString policy.memoryMb,
    "pids_limit=" ++ toString policy.pidsLimit,
    "tmpfs_mb=" ++ toString policy.tmpfsMb,
    "capabilities=none",
    "no_new_privileges=true",
    "user=" ++ containerUser]

/-- `_execution_details`. -/
def executionDetails (policy : DockerSandboxPolicy) (name : String) (preflight : DockerPreflight)
    (containerUser : String) : List String :=
  containerDetail name :: policyDetails policy preflight containerUser

/-- `run` after the preflight; `timeout` is the deadline as it is written. -/
def run (policy : DockerSandboxPolicy) (preflight : DockerPreflight)
    (containerUser hex timeout : String) (outcome : ContainerOutcome) (durationMs : ℤ) :
    VerificationExecution :=
  let details := executionDetails policy (containerName hex) preflight containerUser
  match outcome with
  | .completed returncode stdout stderr =>
    let stderr :=
      if stderr = "" ∧ returncode ∈ [125, 126, 127] then
        "Docker could not create/start the verification container or its command."
      else if stderr = "" ∧ returncode = 137 then
        "Verification sandbox was killed, commonly because a configured resource limit " ++
          "was exceeded."
      else stderr
    { exitCode := some returncode
      stdout
      stderr
      durationMs
      backend := .docker
      details
      failureType := if returncode ∈ [125, 126, 127, 137] then some .toolFailure else none }
  | .timedOut stdout stderr cleanupError =>
    let stderr :=
      if stderr = "" then "Docker verification sandbox timed out after " ++ timeout ++ " seconds."
      else stderr
    { exitCode := none
      stdout
      stderr := if cleanupError = "" then stderr
        else stderr ++ "\nSandbox cleanup warning: " ++ cleanupError
      durationMs
      backend := .docker
      details
      failureType := some .sandboxTimeout }
  | .notStarted error =>
    { exitCode := none
      stdout := ""
      stderr := "Unable to start Docker verification sandbox: " ++ error
      durationMs
      backend := .docker
      details
      failureType := some .toolFailure }

@[simp] theorem run_details (policy : DockerSandboxPolicy) (preflight : DockerPreflight)
    (containerUser hex timeout : String) (outcome : ContainerOutcome) (durationMs : ℤ) :
    (run policy preflight containerUser hex timeout outcome durationMs).details =
      executionDetails policy (containerName hex) preflight containerUser := by
  cases outcome <;> rfl

end DockerSandboxRunner

end DevFlow
