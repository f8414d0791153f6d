import Groundwork.Taskfile.Basic

namespace Groundwork.Taskfile

/-! The taskfile that is used when no other is found: the bare-metal installer test environment. -/

namespace Builtin

def reference (name : String) : String :=
  "$\x7b" ++ name ++ "\x7d"

/-- Defaults; a variable of the configuration or of the environment goes before them. -/
def vars : Vars := .ofList
  [("PROFILE", "minikube"),
    ("LIBVIRT_URI", "qemu:///system"),
    ("MINIKUBE_VERSION", "v1.8.2"),
    ("MINIKUBE_DRIVER", "kvm2"),
    ("BMI_REPO", "https://github.com/filanov/bm-inventory"),
    ("BMI_DIR", reference "STAGING_DIR" ++ "/bm-inventory"),
    ("TF_DIR", reference "STAGING_DIR" ++ "/terraform"),
    ("TF_TEMPLATES", "terraform_files")]

def shell (script : String) : Step :=
  .ofAction (.shell script none)

def exec (program : String) (arguments : List String) (directory : Option String) : Step :=
  .ofAction (.exec program arguments directory)

def labelled (label : String) (step : Step) : Step :=
  { step with label := some label }

def bestEffort (step : Step) : Step :=
  { step with bestEffort := true }

def task (name description : String) (needs : List String) (steps : List Step) : Task :=
  ⟨name, some description, needs, steps⟩

def installScript : String :=
  "if ! [ -x \"$(command -v minikube)\" ]; then\n" ++
  "  curl -Lo minikube \"https://storage.googleapis.com/minikube/releases/" ++
    reference "MINIKUBE_VERSION" ++ "/minikube-linux-amd64\"\n" ++
  "  chmod +x minikube\n" ++
  "  sudo mv minikube /usr/local/bin/\n" ++
  "fi\n"

def terraformOptions : List String :=
  ["-auto-approve", "-input=false", "-state=terraform.tfstate", "-state-out=terraform.tfstate",
    "-var-file=terraform.tfvars.json"]

def terraform (arguments : List String) : Step :=
  exec "terraform" arguments (some (reference "TF_DIR"))

def tasks : List Task :=
  [task "install_minikube" "Download minikube unless it is already on PATH" []
      [shell installScript],
    task "start_minikube" "Create the minikube VM profile once and expose its services"
      ["install_minikube"]
      [shell "minikube config set WantUpdateNotification false",
        labelled "minikube profile" (.ofAction (.ensureResource (reference "PROFILE")
          ["virsh", "-c", reference "LIBVIRT_URI", "list", "--all", "--name"] none
          "minikube start --profile \"$PROFILE\" --driver=\"$MINIKUBE_DRIVER\" --memory=8192 --cpus=4"
          none)),
        labelled "minikube tunnel" (bestEffort
          (shell "nohup minikube tunnel --profile \"$PROFILE\" >/dev/null 2>&1 &"))],
    task "bring_bm_inventory" "Clone the bm-inventory service at BMI_BRANCH" []
      [.ofAction (.cloneIfAbsent (reference "BMI_REPO") (reference "BMI_BRANCH") (reference "BMI_DIR"))],
    task "deploy_bm_inventory" "Deploy bm-inventory into the local cluster" ["bring_bm_inventory"]
      [exec "make" ["-C", reference "BMI_DIR", "deploy-all"] none],
    task "run" "Local cluster with bm-inventory deployed" ["start_minikube", "deploy_bm_inventory"] [],
    task "copy_terraform_files" "Stage terraform templates and node variables" []
      [.ofAction (.copyIfAbsent (reference "TF_TEMPLATES") (reference "TF_DIR")),
        .ofAction (.tfvars (reference "TF_DIR" ++ "/terraform.tfvars.json")
          [("master_count", .string (reference "NUM_MASTERS"))])],
    task "run_terraform" "Create the node VMs" ["copy_terraform_files"]
      [terraform ["init"], terraform ("apply" :: terraformOptions)],
    task "deploy_nodes" "Boot nodes from the installer image and start discovery"
      ["copy_terraform_files"]
      [shell "discovery-infra/start_discovery.py -i \"$IMAGE\" -n \"$NUM_MASTERS\""],
    task "run_full_flow" "Everything from a clean host to discovered nodes" ["run", "deploy_nodes"] [],
    task "destroy_nodes" "Tear down node VMs and their networks" []
      [bestEffort (terraform ("destroy" :: terraformOptions)),
        bestEffort (shell "discovery-infra/virsh_cleanup.py -m")],
    task "delete_minikube" "Delete the minikube profile" []
      [bestEffort (shell "minikube delete --profile \"$PROFILE\"")],
    task "destroy" "Tear down nodes and the local cluster" ["destroy_nodes", "delete_minikube"] [],
    task "clean" "Remove the staging directory" []
      [.ofAction (.remove (reference "STAGING_DIR"))]]

end Builtin

/-- The built-in taskfile, with its paths starting from a directory. -/
def builtin (baseDirectory : String) : Taskfile :=
  ⟨.builtin, baseDirectory, Builtin.vars, Builtin.tasks⟩

end Groundwork.Taskfile
