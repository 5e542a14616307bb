import MotionWatch.Parameter.Set

/-!
# The parameters of triggers

* `ParameterName`: the names under which triggers look up their parameters.
* `motionDefaults`: the parameters of a motion trigger.
* `cascadeDefaults`: the parameters of a cascading trigger.
-/

namespace MotionWatch

namespace ParameterName

def noiseFactor : String := "noise-factor"
def minPixelsChanged : String := "min-pixels-changed-percentage"
def maxPixelsChanged : String := "max-pixels-changed-percentage"
def panTilt : String := "pan-tilt"
def rememberTrigger : String := "remember-trigger"
def despeckleFilter : String := "despeckle-filter"
def minDuration : String := "min-duration"
def muteDuration : String := "mute-duration"
def minFrames : String := "min-n-frames"
def preRecordDuration : String := "pre-motion-record-duration"
def maxFps : String := "max-fps"

end ParameterName

open ParameterName in
/-- The parameters of a motion trigger with their first values. -/
def motionDefaults : ParameterSet :=
  ParameterSet.empty
    |>.declare noiseFactor "luma difference at which a pixel counts as changed" (.int 32)
    |>.declare minPixelsChanged
      "percentage of changed pixels above which motion is detected" (.double 1.0)
    |>.declare maxPixelsChanged
      "percentage of changed pixels below which motion is detected" (.double 100.0)
    |>.declare panTilt "steer pan/tilt towards the detected motion" (.bool false)
    |>.declare rememberTrigger "meta key to store the triggering frame under" (.string "")
    |>.declare despeckleFilter
      "dilate/erode pattern applied to the change map (d, e, D, E)" (.string "")
    |>.declare minDuration "number of quiet frames before a recording is stopped" (.int 5)
    |>.declare muteDuration
      "number of frames to ignore motion after a recording stopped" (.int 5)
    |>.declare minFrames
      "number of consecutive frames with motion needed to start recording" (.int 1)
    |>.declare preRecordDuration "number of frames to keep from before the trigger" (.int 10)
    |>.declare maxFps "limit the processing frame rate (-1 = unlimited)" (.double (-1.0))

/-- The parameters of a cascading trigger with their first values. -/
def cascadeDefaults : ParameterSet :=
  ParameterSet.empty
    |>.declare ParameterName.preRecordDuration
      "number of frames to keep from before the trigger" (.int 0)

end MotionWatch
